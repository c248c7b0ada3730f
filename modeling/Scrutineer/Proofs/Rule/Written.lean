import Scrutineer.Proofs.Rule.Compilation
import Scrutineer.Proofs.Rule.Slot

/-! Writing conditions as rules. Each condition has a strategy and parameters that
write it. The parameters list their keys in increasing order, and those of a
well-formed condition compile to just that condition. -/

namespace Scrutineer

def Definition.toJson (definition : Definition) : Json :=
  .object [("params", .object definition.params), ("strategy", .text definition.strategy)]

theorem Slot.definition_toJson (written : Definition) :
    Slot.definition written.toJson = .ok written :=
  rfl

/-- The parameters that write a check. Modules and resources stand under `name`. -/
def PropertyCheck.params (check : PropertyCheck) : Members :=
  [("key", .text check.key), ("name", .text check.target),
    ("op", .text check.comparator.operator.tag), ("part", .text check.part),
    ("value", check.value.toJson)]

def Bound.params (bound : Bound) : Members :=
  [("op", .text bound.operator.tag), ("value", .ofDouble bound.limit)]

def Form.moduleStrategy : Form → Strategy
  | .double => .doubleModuleProperty
  | .count => .countModuleProperty
  | .text => .textModuleProperty

namespace Condition

def strategy : Condition → Strategy
  | .builtIn _ => .shipLocation
  | .size .. => .shipSize
  | .partCount .. => .partCount
  | .partExists _ => .partExists
  | .partNotExists _ => .partNotExists
  | .partSetContains .. => .partSetContains
  | .partSetCount .. => .partSetCount
  | .moduleProperty check => check.comparator.form.moduleStrategy
  | .resourceProperty _ => .resourceProperty
  | .cost _ => .shipCost
  | .mass _ => .shipMass
  | .points _ => .shipPoints
  | .not _ => .not
  | .and .. => .and
  | .or .. => .or
  | .xor .. => .xor

def params : Condition → Members
  | .builtIn building => [("location", .text building.tag)]
  | .size x y z =>
      [("opx", .text x.operator.tag), ("opy", .text y.operator.tag), ("opz", .text z.operator.tag),
        ("x", .ofDouble x.limit), ("y", .ofDouble y.limit), ("z", .ofDouble z.limit)]
  | .partCount operator value => [("op", .text operator.tag), ("value", .number (.ofCount value))]
  | .partExists part => [("part", .text part)]
  | .partNotExists part => [("part", .text part)]
  | .partSetContains parts matcher =>
      [("matcher", .text matcher.tag), ("parts", .ofTexts parts)]
  | .partSetCount parts operator value =>
      [("op", .text operator.tag), ("parts", .ofTexts parts), ("value", .number (.ofCount value))]
  | .moduleProperty check => check.params
  | .resourceProperty check => check.params
  | .cost bound => bound.params
  | .mass bound => bound.params
  | .points bound => bound.params
  | .not child => [("rule", Definition.toJson ⟨child.strategy.name, child.params⟩)]
  | .and left right | .or left right | .xor left right =>
      [("a", Definition.toJson ⟨left.strategy.name, left.params⟩),
        ("b", Definition.toJson ⟨right.strategy.name, right.params⟩)]

end Condition

/-! ### What is written is read -/

namespace Slot

private theorem read_eq_ok_of_find? {Value : Type} {slot : Slot Value} {params : Members}
    {key : String} {value : Json} {made : Value} (found : Entries.find? key params = some value)
    (present : value ≠ .null) (accepted : slot value = .ok made) :
    slot.read params key = .ok made :=
  (read_of_find? found present).trans accepted

private theorem ne_null_of_double {value : Double} (finite : value.isFinite = true) :
    Json.ofDouble value ≠ .null := by
  rw [Json.ofDouble_of_finite finite]
  exact Json.noConfusion

private theorem ne_null_of_reference {form : Form} {value : Scalar}
    (usable : value.IsReference form) : value.toJson ≠ .null := by
  cases value with
  | number value => exact ne_null_of_double usable.1
  | truth known => exact Json.noConfusion
  | text content => exact Json.noConfusion

end Slot

namespace Strategy.Source

variable {source : Source}

theorem makesBound_of_find? {bound : Bound} {operatorKey limitKey : String}
    (wellFormed : bound.WellFormed)
    (hasOperator : Entries.find? operatorKey source.params = some (.text bound.operator.tag))
    (hasLimit : Entries.find? limitKey source.params = some (.ofDouble bound.limit)) :
    source.MakesBound operatorKey limitKey bound where
  operator :=
    Slot.read_eq_ok_of_find? hasOperator Json.noConfusion (Slot.operator_tag bound.operator)
  limit :=
    Slot.read_eq_ok_of_find? hasLimit (Slot.ne_null_of_double wellFormed)
      (Slot.double_ofDouble wellFormed)

theorem makesCheck_params (nested : String → Except ParamFault Condition) {check : PropertyCheck}
    (targetKey : String) (wellFormed : check.WellFormed)
    (underName : Reading.presentKey check.params targetKey ["name"] = "name") :
    Source.MakesCheck { params := check.params, nested } targetKey check.comparator.form check where
  part := Slot.read_eq_ok_of_find? rfl Json.noConfusion (Slot.name_text wellFormed.part)
  target := by
    rw [underName]
    exact Slot.read_eq_ok_of_find? rfl Json.noConfusion (Slot.name_text wellFormed.target)
  key := Slot.read_eq_ok_of_find? rfl Json.noConfusion (Slot.name_text wellFormed.key)
  operator :=
    Slot.read_eq_ok_of_find? rfl Json.noConfusion (Slot.operator_tag check.comparator.operator)
  value :=
    Slot.read_eq_ok_of_find? rfl (Slot.ne_null_of_reference wellFormed.value)
      (Slot.reference_toJson wellFormed.value)
  form := rfl

end Strategy.Source

namespace Condition

private theorem compile_of_makes {strategy : Strategy} {params : Members} {condition : Condition}
    (makes : strategy.Makes (sourceOf params) condition) :
    compile strategy.name params = .ok condition :=
  (compile_name_eq_ok_iff strategy params condition).mpr makes

theorem nested_of_find? {params inner : Members} {key strategy : String} {child : Condition}
    (found : Entries.find? key params = some (Definition.toJson ⟨strategy, inner⟩))
    (compiled : compile strategy inner = .ok child) :
    (sourceOf params).nested key = .ok child :=
  (nestedIn_eq_ok_iff params key child).mpr
    ⟨_, Slot.read_eq_ok_of_find? found Json.noConfusion (Slot.definition_toJson _), compiled⟩

/-- A well-formed condition is what its written form compiles to. -/
theorem compile_strategy_params {condition : Condition} (wellFormed : condition.WellFormed) :
    compile condition.strategy.name condition.params = .ok condition := by
  induction condition with
  | builtIn building =>
      exact compile_of_makes (.shipLocation
        (Slot.read_eq_ok_of_find? rfl Json.noConfusion (Slot.building_tag building)))
  | size x y z =>
      obtain ⟨finiteX, finiteY, finiteZ⟩ := wellFormed
      exact compile_of_makes (.shipSize (Strategy.Source.makesBound_of_find? finiteX rfl rfl)
        (Strategy.Source.makesBound_of_find? finiteY rfl rfl)
        (Strategy.Source.makesBound_of_find? finiteZ rfl rfl))
  | partCount operator value =>
      exact compile_of_makes (.partCount
        (Slot.read_eq_ok_of_find? rfl Json.noConfusion (Slot.operator_tag operator))
        (Slot.read_eq_ok_of_find? rfl Json.noConfusion (Slot.count_ofCount value)))
  | partExists part =>
      exact compile_of_makes (.partExists
        (Slot.read_eq_ok_of_find? rfl Json.noConfusion (Slot.name_text wellFormed)))
  | partNotExists part =>
      exact compile_of_makes (.partNotExists
        (Slot.read_eq_ok_of_find? rfl Json.noConfusion (Slot.name_text wellFormed)))
  | partSetContains parts matcher =>
      exact compile_of_makes (.partSetContains
        (Slot.read_eq_ok_of_find? rfl Json.noConfusion (Slot.partSet_ofTexts wellFormed))
        (Slot.read_eq_ok_of_find? rfl Json.noConfusion (Slot.matcher_tag matcher)))
  | partSetCount parts operator value =>
      exact compile_of_makes (.partSetCount
        (Slot.read_eq_ok_of_find? rfl Json.noConfusion (Slot.partSet_ofTexts wellFormed))
        (Slot.read_eq_ok_of_find? rfl Json.noConfusion (Slot.operator_tag operator))
        (Slot.read_eq_ok_of_find? rfl Json.noConfusion (Slot.count_ofCount value)))
  | moduleProperty check =>
      have made := Strategy.Source.makesCheck_params (nestedIn check.params) "mod" wellFormed rfl
      apply compile_of_makes
      change Strategy.Makes _ check.comparator.form.moduleStrategy (.moduleProperty check)
      cases form : check.comparator.form with
      | double =>
          rw [form] at made
          exact .doubleModuleProperty made
      | count =>
          rw [form] at made
          exact .countModuleProperty made
      | text =>
          rw [form] at made
          exact .textModuleProperty made
  | resourceProperty check =>
      obtain ⟨checked, asDouble⟩ := wellFormed
      have made := Strategy.Source.makesCheck_params (nestedIn check.params) "res" checked rfl
      rw [asDouble] at made
      exact compile_of_makes (.resourceProperty made)
  | cost bound =>
      exact compile_of_makes (.shipCost
        (Strategy.Source.makesBound_of_find? wellFormed rfl rfl))
  | mass bound =>
      exact compile_of_makes (.shipMass
        (Strategy.Source.makesBound_of_find? wellFormed rfl rfl))
  | points bound =>
      exact compile_of_makes (.shipPoints
        (Strategy.Source.makesBound_of_find? wellFormed rfl rfl))
  | not child ih =>
      exact compile_of_makes (.not (nested_of_find? rfl (ih wellFormed)))
  | and left right leftIh rightIh =>
      exact compile_of_makes (.and (nested_of_find? rfl (leftIh wellFormed.1))
        (nested_of_find? rfl (rightIh wellFormed.2)))
  | or left right leftIh rightIh =>
      exact compile_of_makes (.or (nested_of_find? rfl (leftIh wellFormed.1))
        (nested_of_find? rfl (rightIh wellFormed.2)))
  | xor left right leftIh rightIh =>
      exact compile_of_makes (.xor (nested_of_find? rfl (leftIh wellFormed.1))
        (nested_of_find? rfl (rightIh wellFormed.2)))

end Condition

/-! ### What is written is canonical -/

namespace Json

@[simp] private theorem canonical_text (content : String) : (Json.text content).Canonical :=
  .text content

@[simp] private theorem canonical_number (value : Number) : (Json.number value).Canonical :=
  .number value

@[simp] private theorem canonical_ofDouble (value : Double) : (ofDouble value).Canonical := by
  unfold ofDouble
  split
  · exact .number _
  · exact .null

@[simp] private theorem canonical_scalar (value : Scalar) : value.toJson.Canonical := by
  cases value with
  | number value => exact canonical_ofDouble value
  | truth known => exact .truth known
  | text content => exact .text content

@[simp] private theorem canonical_ofTexts (texts : List String) : (ofTexts texts).Canonical := by
  apply Canonical.array
  intro item member
  obtain ⟨content, _listed, same⟩ := List.mem_map.mp member
  rw [← same]
  exact .text content

private theorem canonical_of_keys {members : Members} (keys : List String)
    (increasing : keys.Pairwise (· < ·)) (listed : members.map Prod.fst = keys)
    (each : ∀ member ∈ members, member.2.Canonical) : Canonical (.object members) := by
  refine .object members ?_ each
  rw [← listed] at increasing
  exact List.pairwise_map.mp increasing

private theorem canonical_definition (definition : Definition)
    (params : Canonical (.object definition.params)) : definition.toJson.Canonical :=
  canonical_of_keys ["params", "strategy"] (by decide) rfl (by simp [params])

end Json

theorem Bound.canonical_params (bound : Bound) : Json.Canonical (.object bound.params) :=
  Json.canonical_of_keys ["op", "value"] (by decide) rfl (by simp [params])

theorem PropertyCheck.canonical_params (check : PropertyCheck) :
    Json.Canonical (.object check.params) :=
  Json.canonical_of_keys ["key", "name", "op", "part", "value"] (by decide) rfl (by simp [params])

namespace Condition

theorem canonical_params (condition : Condition) : Json.Canonical (.object condition.params) := by
  induction condition with
  | builtIn building =>
      exact Json.canonical_of_keys ["location"] (by decide) rfl (by simp [params])
  | size x y z =>
      exact Json.canonical_of_keys ["opx", "opy", "opz", "x", "y", "z"] (by decide) rfl
        (by simp [params])
  | partCount operator value =>
      exact Json.canonical_of_keys ["op", "value"] (by decide) rfl (by simp [params])
  | partExists part | partNotExists part =>
      exact Json.canonical_of_keys ["part"] (by decide) rfl (by simp [params])
  | partSetContains parts matcher =>
      exact Json.canonical_of_keys ["matcher", "parts"] (by decide) rfl (by simp [params])
  | partSetCount parts operator value =>
      exact Json.canonical_of_keys ["op", "parts", "value"] (by decide) rfl (by simp [params])
  | moduleProperty check | resourceProperty check => exact check.canonical_params
  | cost bound | mass bound | points bound => exact bound.canonical_params
  | not child ih =>
      have inner := Json.canonical_definition ⟨child.strategy.name, child.params⟩ ih
      exact Json.canonical_of_keys ["rule"] (by decide) rfl (by simp [params, inner])
  | and left right leftIh rightIh | or left right leftIh rightIh | xor left right leftIh rightIh =>
      have first := Json.canonical_definition ⟨left.strategy.name, left.params⟩ leftIh
      have second := Json.canonical_definition ⟨right.strategy.name, right.params⟩ rightIh
      exact Json.canonical_of_keys ["a", "b"] (by decide) rfl (by simp [params, first, second])

end Condition
end Scrutineer
