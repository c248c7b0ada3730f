import Scrutineer.Proofs.Json.Decode
import Scrutineer.Proofs.Rule.Source

/-! What it takes for a rule to compile. A rule compiles to a condition exactly when
its strategy is known and the reading of its parameters has that condition as its
outcome, where a parameter that holds a rule is read by compiling that rule. -/

namespace Scrutineer

/-! ### Reading the parameters of a strategy -/

namespace Strategy

theorem ofName?_name (strategy : Strategy) : ofName? strategy.name = some strategy := by
  cases strategy <;> decide

theorem Source.settled_slot {Value : Type} (source : Source) (slot : Slot Value) (key : String) :
    (source.slot slot key).Settled :=
  Reading.settled_slot slot source.params key

theorem Source.settled_child (source : Source) (key : String) : (source.child key).Settled :=
  Reading.settled_ofExcept key (source.nested key)

theorem Source.settled_bound (source : Source) (operatorKey limitKey : String) :
    (source.bound operatorKey limitKey).Settled :=
  ((source.settled_slot Slot.operator operatorKey).map Bound.mk).seq
    (source.settled_slot Slot.double limitKey)

theorem Source.settled_check (source : Source) (targetKey : String) (form : Form) :
    (source.check targetKey form).Settled :=
  (((((source.settled_slot Slot.name "part").map _).seq
    (Reading.settled_slot Slot.name source.params _)).seq
    (source.settled_slot Slot.name "key")).seq
    (source.settled_slot Slot.operator "op")).seq
    (source.settled_slot (Slot.reference form) "value")

theorem Source.outcome_slot_eq_some_iff {Value : Type} (source : Source) (slot : Slot Value)
    (key : String) (value : Value) :
    (source.slot slot key).outcome = some value ↔ slot.read source.params key = .ok value :=
  Reading.outcome_slot_eq_some_iff slot source.params key value

theorem Source.outcome_child_eq_some_iff (source : Source) (key : String) (child : Condition) :
    (source.child key).outcome = some child ↔ source.nested key = .ok child :=
  Reading.outcome_ofExcept_eq_some_iff key (source.nested key) child

structure Source.MakesBound (source : Source) (operatorKey limitKey : String) (bound : Bound) :
    Prop where
  operator : Slot.operator.read source.params operatorKey = .ok bound.operator
  limit : Slot.double.read source.params limitKey = .ok bound.limit

theorem Source.outcome_bound_eq_some_iff (source : Source) (operatorKey limitKey : String)
    (bound : Bound) :
    (source.bound operatorKey limitKey).outcome = some bound ↔
      source.MakesBound operatorKey limitKey bound := by
  obtain ⟨operator, limit⟩ := bound
  simp only [Source.bound, Reading.outcome_seq_eq_some_iff, Reading.outcome_map_eq_some_iff,
    Source.outcome_slot_eq_some_iff]
  constructor
  · intro given
    rcases given with ⟨_, ⟨readOperator, hasOperator, rfl⟩, readLimit, hasLimit, same⟩
    cases same
    exact ⟨hasOperator, hasLimit⟩
  · intro given
    rcases given with ⟨hasOperator, hasLimit⟩
    exact ⟨_, ⟨_, hasOperator, rfl⟩, _, hasLimit, rfl⟩

structure Source.MakesCheck (source : Source) (targetKey : String) (form : Form)
    (check : PropertyCheck) : Prop where
  part : Slot.name.read source.params "part" = .ok check.part
  target : Slot.name.read source.params (Reading.presentKey source.params targetKey ["name"]) =
    .ok check.target
  key : Slot.name.read source.params "key" = .ok check.key
  operator : Slot.operator.read source.params "op" = .ok check.comparator.operator
  value : (Slot.reference form).read source.params "value" = .ok check.value
  form : check.comparator.form = form

theorem Source.outcome_check_eq_some_iff (source : Source) (targetKey : String) (form : Form)
    (check : PropertyCheck) :
    (source.check targetKey form).outcome = some check ↔
      source.MakesCheck targetKey form check := by
  obtain ⟨part, target, key, ⟨operator, checkForm⟩, value⟩ := check
  simp only [Source.check, Reading.nameUnder, Reading.outcome_seq_eq_some_iff,
    Reading.outcome_map_eq_some_iff, Source.outcome_slot_eq_some_iff,
    Reading.outcome_slot_eq_some_iff]
  constructor
  · intro given
    rcases given with ⟨_, ⟨_, ⟨_, ⟨_, ⟨readPart, hasPart, rfl⟩, readTarget, hasTarget, rfl⟩,
      readKey, hasKey, rfl⟩, readOperator, hasOperator, rfl⟩, readValue, hasValue, same⟩
    cases same
    exact ⟨hasPart, hasTarget, hasKey, hasOperator, hasValue, rfl⟩
  · intro given
    rcases given with ⟨hasPart, hasTarget, hasKey, hasOperator, hasValue, sameForm⟩
    cases sameForm
    exact ⟨_, ⟨_, ⟨_, ⟨_, ⟨_, hasPart, rfl⟩, _, hasTarget, rfl⟩, _, hasKey, rfl⟩, _, hasOperator,
      rfl⟩, _, hasValue, rfl⟩

/-- The conditions that the strategies make of their parameters. -/
inductive Makes (source : Source) : Strategy → Condition → Prop where
  | partCount {operator value}
      (hasOperator : Slot.operator.read source.params "op" = .ok operator)
      (hasValue : Slot.count.read source.params "value" = .ok value) :
      Makes source .partCount (.partCount operator value)
  | partExists {part} (hasPart : Slot.name.read source.params "part" = .ok part) :
      Makes source .partExists (.partExists part)
  | partNotExists {part} (hasPart : Slot.name.read source.params "part" = .ok part) :
      Makes source .partNotExists (.partNotExists part)
  | partSetCount {parts operator value}
      (hasParts : Slot.partSet.read source.params "parts" = .ok parts)
      (hasOperator : Slot.operator.read source.params "op" = .ok operator)
      (hasValue : Slot.count.read source.params "value" = .ok value) :
      Makes source .partSetCount (.partSetCount parts operator value)
  | partSetContains {parts matcher}
      (hasParts : Slot.partSet.read source.params "parts" = .ok parts)
      (hasMatcher : Slot.matcher.read source.params "matcher" = .ok matcher) :
      Makes source .partSetContains (.partSetContains parts matcher)
  | doubleModuleProperty {check} (hasCheck : source.MakesCheck "mod" .double check) :
      Makes source .doubleModuleProperty (.moduleProperty check)
  | countModuleProperty {check} (hasCheck : source.MakesCheck "mod" .count check) :
      Makes source .countModuleProperty (.moduleProperty check)
  | textModuleProperty {check} (hasCheck : source.MakesCheck "mod" .text check) :
      Makes source .textModuleProperty (.moduleProperty check)
  | resourceProperty {check} (hasCheck : source.MakesCheck "res" .double check) :
      Makes source .resourceProperty (.resourceProperty check)
  | shipCost {bound} (hasBound : source.MakesBound "op" "value" bound) :
      Makes source .shipCost (.cost bound)
  | shipMass {bound} (hasBound : source.MakesBound "op" "value" bound) :
      Makes source .shipMass (.mass bound)
  | shipPoints {bound} (hasBound : source.MakesBound "op" "value" bound) :
      Makes source .shipPoints (.points bound)
  | shipSize {x y z} (hasX : source.MakesBound "opx" "x" x) (hasY : source.MakesBound "opy" "y" y)
      (hasZ : source.MakesBound "opz" "z" z) :
      Makes source .shipSize (.size x y z)
  | shipLocation {building}
      (hasBuilding : Slot.building.read source.params source.buildingKey = .ok building) :
      Makes source .shipLocation (.builtIn building)
  | not {child} (hasChild : source.nested "rule" = .ok child) : Makes source .not (.not child)
  | and {left right} (hasLeft : source.nested "a" = .ok left)
      (hasRight : source.nested "b" = .ok right) :
      Makes source .and (.and left right)
  | or {left right} (hasLeft : source.nested "a" = .ok left)
      (hasRight : source.nested "b" = .ok right) :
      Makes source .or (.or left right)
  | xor {left right} (hasLeft : source.nested "a" = .ok left)
      (hasRight : source.nested "b" = .ok right) :
      Makes source .xor (.xor left right)

/-- A strategy has a condition as its outcome exactly when it makes it of the
parameters. -/
theorem outcome_condition_eq_some_iff (strategy : Strategy) (source : Source)
    (condition : Condition) :
    (strategy.condition source).outcome = some condition ↔ Makes source strategy condition := by
  cases strategy <;>
    simp only [Strategy.condition, Reading.outcome_seq_eq_some_iff,
      Reading.outcome_map_eq_some_iff, Source.outcome_slot_eq_some_iff,
      Source.outcome_child_eq_some_iff, Source.outcome_bound_eq_some_iff,
      Source.outcome_check_eq_some_iff]
  case partCount =>
    constructor
    · intro given
      rcases given with ⟨_, ⟨operator, hasOperator, rfl⟩, value, hasValue, rfl⟩
      exact .partCount hasOperator hasValue
    · intro makes
      cases makes with
      | partCount hasOperator hasValue =>
          exact ⟨_, ⟨_, hasOperator, rfl⟩, _, hasValue, rfl⟩
  case partSetCount =>
    constructor
    · intro given
      rcases given with ⟨_, ⟨_, ⟨parts, hasParts, rfl⟩, operator, hasOperator, rfl⟩, value,
        hasValue, rfl⟩
      exact .partSetCount hasParts hasOperator hasValue
    · intro makes
      cases makes with
      | partSetCount hasParts hasOperator hasValue =>
          exact ⟨_, ⟨_, ⟨_, hasParts, rfl⟩, _, hasOperator, rfl⟩, _, hasValue, rfl⟩
  case partSetContains =>
    constructor
    · intro given
      rcases given with ⟨_, ⟨parts, hasParts, rfl⟩, matcher, hasMatcher, rfl⟩
      exact .partSetContains hasParts hasMatcher
    · intro makes
      cases makes with
      | partSetContains hasParts hasMatcher =>
          exact ⟨_, ⟨_, hasParts, rfl⟩, _, hasMatcher, rfl⟩
  case shipSize =>
    constructor
    · intro given
      rcases given with ⟨_, ⟨_, ⟨x, hasX, rfl⟩, y, hasY, rfl⟩, z, hasZ, rfl⟩
      exact .shipSize hasX hasY hasZ
    · intro makes
      cases makes with
      | shipSize hasX hasY hasZ =>
          exact ⟨_, ⟨_, ⟨_, hasX, rfl⟩, _, hasY, rfl⟩, _, hasZ, rfl⟩
  case and | or | xor =>
    constructor
    · intro given
      rcases given with ⟨_, ⟨left, hasLeft, rfl⟩, right, hasRight, rfl⟩
      constructor <;> assumption
    · intro makes
      cases makes
      rename_i hasLeft hasRight
      exact ⟨_, ⟨_, hasLeft, rfl⟩, _, hasRight, rfl⟩
  -- The other strategies read one parameter, check or rule only.
  all_goals
    constructor
    · intro given
      rcases given with ⟨_, read, rfl⟩
      constructor
      exact read
    · intro makes
      cases makes
      rename_i read
      exact ⟨_, read, rfl⟩

/-- Whatever the strategy, its condition is there exactly when no parameter is
at fault. -/
theorem settled_condition (strategy : Strategy) (source : Source) :
    (strategy.condition source).Settled := by
  cases strategy with
  | partCount =>
      exact ((source.settled_slot Slot.operator "op").map _).seq
        (source.settled_slot Slot.count "value")
  | partExists => exact (source.settled_slot Slot.name "part").map _
  | partNotExists => exact (source.settled_slot Slot.name "part").map _
  | partSetCount =>
      exact (((source.settled_slot Slot.partSet "parts").map _).seq
        (source.settled_slot Slot.operator "op")).seq (source.settled_slot Slot.count "value")
  | partSetContains =>
      exact ((source.settled_slot Slot.partSet "parts").map _).seq
        (source.settled_slot Slot.matcher "matcher")
  | doubleModuleProperty => exact (source.settled_check "mod" .double).map _
  | countModuleProperty => exact (source.settled_check "mod" .count).map _
  | textModuleProperty => exact (source.settled_check "mod" .text).map _
  | resourceProperty => exact (source.settled_check "res" .double).map _
  | shipCost => exact (source.settled_bound "op" "value").map _
  | shipMass => exact (source.settled_bound "op" "value").map _
  | shipPoints => exact (source.settled_bound "op" "value").map _
  | shipSize =>
      exact (((source.settled_bound "opx" "x").map _).seq (source.settled_bound "opy" "y")).seq
        (source.settled_bound "opz" "z")
  | shipLocation => exact (source.settled_slot Slot.building source.buildingKey).map _
  | not => exact (source.settled_child "rule").map _
  | and => exact ((source.settled_child "a").map _).seq (source.settled_child "b")
  | or => exact ((source.settled_child "a").map _).seq (source.settled_child "b")
  | xor => exact ((source.settled_child "a").map _).seq (source.settled_child "b")

end Strategy

/-! ### Rules inside of rules -/

namespace Condition

/-- What comes of the rule that the parameters hold under a key. -/
def nestedIn (params : Members) (key : String) : Except ParamFault Condition :=
  match Slot.definition.read params key with
  | .error fault => .error fault
  | .ok inner => (compile inner.strategy inner.params).mapError fun error => .nested error.message

def sourceOf (params : Members) : Strategy.Source :=
  { params, nested := nestedIn params }

def ofSource (strategy : String) (source : Strategy.Source) : Except RuleError Condition :=
  match Strategy.ofName? strategy with
  | none => .error (.unknownStrategy strategy)
  | some known => (known.condition source).finish known.name

theorem gives_child (params : Members) (strategy key : String) :
    (Reader.child { strategy, params } (fun inner => compile inner.strategy inner.params)
      key).Gives (Reading.ofExcept key (nestedIn params key)) := by
  have read : nestedIn params key =
      (Slot.definition.read params key >>= fun inner =>
        (compile inner.strategy inner.params).mapError fun error => .nested error.message) := by
    unfold nestedIn
    cases Slot.definition.read params key <;> rfl
  rw [read]
  exact Reader.gives_child { strategy, params } (fun inner => compile inner.strategy inner.params) key

theorem compile_eq_ofSource (strategy : String) (params : Members) :
    compile strategy params = ofSource strategy (sourceOf params) := by
  rw [compile, compileWith]
  unfold ofSource
  cases Strategy.ofName? strategy with
  | none => rfl
  | some known => exact Reader.build_eq_finish _ (gives_child params known.name) known

/-- What holds of a rule as soon as it holds of the rules inside holds of all. -/
theorem compile_induction {holds : String → Members → Prop}
    (step : ∀ strategy params, (∀ key inner, Slot.definition.read params key = .ok inner →
      holds inner.strategy inner.params) → holds strategy params)
    (strategy : String) (params : Members) : holds strategy params := by
  induction strategy, params using compile.induct with
  | case1 strategy params ih =>
      apply step
      intro key inner read
      obtain ⟨within, rfl⟩ := Reader.exists_within { strategy, params } read
      exact ih within

theorem compile_eq_ok_iff (strategy : String) (params : Members) (condition : Condition) :
    compile strategy params = .ok condition ↔
      ∃ known, Strategy.ofName? strategy = some known ∧
        known.Makes (sourceOf params) condition := by
  rw [compile_eq_ofSource]
  unfold ofSource
  cases found : Strategy.ofName? strategy with
  | none => simp
  | some known =>
      have settled := Strategy.settled_condition known (sourceOf params)
      simp [settled.finish_eq_ok_iff, Strategy.outcome_condition_eq_some_iff]

theorem compile_name_eq_ok_iff (strategy : Strategy) (params : Members) (condition : Condition) :
    compile strategy.name params = .ok condition ↔
      strategy.Makes (sourceOf params) condition := by
  rw [compile_eq_ok_iff]
  simp only [strategy.ofName?_name, Option.some.injEq, exists_eq_left']

theorem nestedIn_eq_ok_iff (params : Members) (key : String) (child : Condition) :
    nestedIn params key = .ok child ↔
      ∃ inner, Slot.definition.read params key = .ok inner ∧
        compile inner.strategy inner.params = .ok child := by
  unfold nestedIn
  cases Slot.definition.read params key with
  | error fault => simp
  | ok inner => simp [Decoder.mapError_eq_ok_iff]

end Condition
end Scrutineer
