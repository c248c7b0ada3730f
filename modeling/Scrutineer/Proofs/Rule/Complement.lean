import Scrutineer.Proofs.Comparison.Order
import Scrutineer.Proofs.Craft.Presence
import Scrutineer.Proofs.Craft.Snapshot
import Scrutineer.Proofs.Rule.Image
import Scrutineer.Proofs.Rule.Nesting
import Scrutineer.Proofs.Rule.Validation

/-! Each operator has a complement that holds just when it does not, provided that the
two sides have an order. Rules that measure a craft compare finite numbers only: their
limits are finite since they compiled, and the quantities of a craft that can be
judged are finite too. With the complement of its operator such a rule therefore comes
to the opposite, as it does inside of a negation. -/

namespace Scrutineer

namespace Operator

def complement : Operator → Operator
  | .less => .greaterOrEqual
  | .lessOrEqual => .greater
  | .greater => .lessOrEqual
  | .greaterOrEqual => .less
  | .equal => .notEqual
  | .notEqual => .equal

theorem holds_complement (operator : Operator) (order : Ordering) :
    operator.complement.holds (some order) = !operator.holds (some order) := by
  cases operator <;> cases order <;> rfl

theorem holdsOfInts_complement (operator : Operator) (left right : Int) :
    operator.complement.holdsOfInts left right = !operator.holdsOfInts left right :=
  operator.holds_complement (compare left right)

theorem holdsOfDoubles_complement (operator : Operator) {left right : Double}
    (leftFinite : left.isFinite = true) (rightFinite : right.isFinite = true) :
    operator.complement.holdsOfDoubles left right = !operator.holdsOfDoubles left right := by
  unfold holdsOfDoubles
  cases ordered : left.order? right with
  | none =>
      rcases (Double.order?_eq_none_iff left right).mp ordered with rfl | rfl
      · cases leftFinite
      · cases rightFinite
  | some order => exact operator.holds_complement order

end Operator

/-! ### The opposite of a condition -/

def Bound.complement (bound : Bound) : Bound :=
  { bound with operator := bound.operator.complement }

theorem Bound.admits_complement {bound : Bound} (wellFormed : bound.WellFormed)
    {quantity : Double} (finite : quantity.isFinite = true) :
    bound.complement.admits quantity = !bound.admits quantity :=
  bound.operator.holdsOfDoubles_complement finite wellFormed

namespace Condition

/-- The condition with the complement of its operator. One that does not measure
a single quantity is negated instead. -/
def complement : Condition → Condition
  | .partCount operator value => .partCount operator.complement value
  | .partSetCount parts operator value => .partSetCount parts operator.complement value
  | .cost bound => .cost bound.complement
  | .mass bound => .mass bound.complement
  | .points bound => .points bound.complement
  | other => .not other

theorem holds_complement {condition : Condition} (wellFormed : condition.WellFormed) {craft : Craft}
    (valid : craft.validate = .ok ()) :
    condition.complement.holds craft = !condition.holds craft := by
  have finite := (Craft.validate_eq_ok_iff craft).mp valid
  cases condition with
  | partCount operator value => exact operator.holdsOfInts_complement _ _
  | partSetCount parts operator value => exact operator.holdsOfInts_complement _ _
  | cost bound =>
      have measured := finite ("cost", craft.cost) (by simp [Craft.quantities])
      exact bound.admits_complement wellFormed measured
  | mass bound =>
      have measured := finite ("mass", craft.mass) (by simp [Craft.quantities])
      exact bound.admits_complement wellFormed measured
  | points bound =>
      have measured := finite ("points", craft.points) (by simp [Craft.quantities])
      exact bound.admits_complement wellFormed measured
  | _ => rfl

end Condition

/-! ### Rules with the complement of their operator -/

def Strategy.measuring : List Strategy :=
  [.partCount, .partSetCount, .shipCost, .shipMass, .shipPoints]

/-- The other parameters are those of a rule, except that the operator is the
complement of its operator. -/
structure Condition.ComplementsOperator (params other : Members) : Prop where
  operator : ∃ operator, Slot.operator.read params "op" = .ok operator ∧
    Slot.operator.read other "op" = .ok operator.complement
  elsewhere : ∀ key, key ≠ "op" → Entries.find? key other = Entries.find? key params

namespace Strategy

variable {params other : Members}

theorem exists_operator_of_makes {strategy : Strategy} (measures : strategy ∈ measuring)
    {source : Source} {condition : Condition} (makes : strategy.Makes source condition) :
    ∃ operator, Slot.operator.read source.params "op" = .ok operator := by
  simp only [measuring, List.mem_cons, List.not_mem_nil, or_false] at measures
  rcases measures with rfl | rfl | rfl | rfl | rfl
  · cases makes with
    | partCount hasOperator hasValue => exact ⟨_, hasOperator⟩
  · cases makes with
    | partSetCount hasParts hasOperator hasValue => exact ⟨_, hasOperator⟩
  · cases makes with
    | shipCost hasBound => exact ⟨_, hasBound.operator⟩
  · cases makes with
    | shipMass hasBound => exact ⟨_, hasBound.operator⟩
  · cases makes with
    | shipPoints hasBound => exact ⟨_, hasBound.operator⟩

theorem makes_complement {strategy : Strategy} (measures : strategy ∈ measuring)
    {condition : Condition} (makes : strategy.Makes (Condition.sourceOf params) condition)
    (complements : Condition.ComplementsOperator params other) :
    strategy.Makes (Condition.sourceOf other) condition.complement := by
  obtain ⟨known, read, otherRead⟩ := complements.operator
  -- The operator that the rule was made of is the one that has been replaced.
  have replaced {operator : Operator} (own : Slot.operator.read params "op" = .ok operator) :
      Slot.operator.read other "op" = .ok operator.complement := by
    cases own.symm.trans read
    exact otherRead
  have kept {Value : Type} {slot : Slot Value} {key : String} {value : Value}
      (own : slot.read params key = .ok value) (elsewhere : key ≠ "op") :
      slot.read other key = .ok value :=
    (slot.read_eq_of_find?_eq (complements.elsewhere key elsewhere)).trans own
  have bounded {bound : Bound}
      (made : (Condition.sourceOf params).MakesBound "op" "value" bound) :
      (Condition.sourceOf other).MakesBound "op" "value" bound.complement :=
    ⟨replaced made.operator, kept made.limit (by decide)⟩
  simp only [measuring, List.mem_cons, List.not_mem_nil, or_false] at measures
  rcases measures with rfl | rfl | rfl | rfl | rfl
  · cases makes with
    | partCount hasOperator hasValue =>
        exact .partCount (replaced hasOperator) (kept hasValue (by decide))
  · cases makes with
    | partSetCount hasParts hasOperator hasValue =>
        exact .partSetCount (kept hasParts (by decide)) (replaced hasOperator)
          (kept hasValue (by decide))
  · cases makes with
    | shipCost hasBound => exact .shipCost (bounded hasBound)
  · cases makes with
    | shipMass hasBound => exact .shipMass (bounded hasBound)
  · cases makes with
    | shipPoints hasBound => exact .shipPoints (bounded hasBound)

end Strategy

namespace Condition

variable {params : Members}

theorem exists_complementsOperator {operator : Operator}
    (read : Slot.operator.read params "op" = .ok operator) :
    ∃ other, ComplementsOperator params other := by
  refine ⟨Entries.insert "op" (.text operator.complement.tag) params, ⟨operator, read, ?_⟩, ?_⟩
  · have found : Entries.find? "op" (Entries.insert "op" (.text operator.complement.tag) params) =
        some (.text operator.complement.tag) := by
      rw [Entries.find?_insert, if_pos rfl]
    rw [Slot.read_of_find? found Json.noConfusion, Slot.operator_tag]
  · intro key different
    rw [Entries.find?_insert, if_neg different]

/-- The operator of a rule that measures a craft can be replaced by its
complement. The rule then compiles as well, and on every craft that can be judged
it holds just when the rule does not, as does the negation of the rule. -/
theorem complementary_rules {name : String} {strategy : Strategy}
    (named : Strategy.ofName? name = some strategy) (measures : strategy ∈ Strategy.measuring)
    {condition : Condition} (compiled : compile name params = .ok condition) :
    (∃ other, ComplementsOperator params other) ∧
      ∀ other, ComplementsOperator params other →
        compile name other = .ok condition.complement ∧
        (∀ craft : Craft, craft.validate = .ok () →
          (condition.complement.holds craft = true ↔ condition.holds craft = false)) ∧
        ∀ negation : Definition, Strategy.ofName? negation.strategy = some .not →
          negation.Holds "rule" { strategy := name, params } →
            ∃ negated, negation.compile = .ok negated ∧
              ∀ craft : Craft, craft.validate = .ok () →
                negated.holds craft = condition.complement.holds craft := by
  obtain ⟨known, knownNamed, makes⟩ := (compile_eq_ok_iff name params condition).mp compiled
  cases named.symm.trans knownNamed
  have opposite {craft : Craft} (valid : craft.validate = .ok ()) :=
    holds_complement (wellFormed_of_compile compiled) valid
  constructor
  · obtain ⟨operator, read⟩ := Strategy.exists_operator_of_makes measures makes
    exact exists_complementsOperator read
  · intro other complements
    refine ⟨?_, ?_, ?_⟩
    · exact (compile_eq_ok_iff name other _).mpr
        ⟨strategy, named, Strategy.makes_complement measures makes complements⟩
    · intro craft valid
      rw [opposite valid, Bool.not_eq_true']
    · intro negation negates holdsRule
      refine ⟨.not condition, ?_, fun craft valid => (opposite valid).symm⟩
      exact (Definition.compile_not_eq_ok_iff negates holdsRule _).mpr ⟨condition, compiled, rfl⟩

/-- The limit is a text, and the operator is written with blanks and capitals. -/
private def cheaperThan : Definition :=
  { strategy := "ship_cost", params := [("op", .text " LT "), ("value", .text "5e3")] }

theorem complementary_rules_of_cheaper_than :
    compile "ship_cost" [("op", .text "gte"), ("value", .text "5e3")] =
        .ok (.cost { operator := .greaterOrEqual, limit := .ofInt 5000 }) ∧
      ((Condition.cost { operator := .greaterOrEqual, limit := .ofInt 5000 }).holds
          (.ofNames []) = true ↔
        (Condition.cost { operator := .less, limit := .ofInt 5000 }).holds (.ofNames []) = false) ∧
      ∃ negated, Condition.compile "not" [("rule", cheaperThan.toJson)] = .ok negated ∧
        negated.holds (.ofNames []) = false := by
  have limit : Slot.double.read cheaperThan.params "value" = .ok (.ofInt 5000) := by
    have read : Double.ofText? (Text.trim "5e3") = some (.ofInt 5000) := by decide +kernel
    have finite : (Double.ofInt 5000).isFinite = true := by decide +kernel
    rw [Slot.read_of_find? rfl Json.noConfusion]
    simp only [Slot.double, read, Option.filter_some, finite, if_true]
  have compiled : compile cheaperThan.strategy cheaperThan.params =
      .ok (.cost { operator := .less, limit := .ofInt 5000 }) :=
    (compile_name_eq_ok_iff .shipCost _ _).mpr (.shipCost ⟨rfl, limit⟩)
  have named : Strategy.ofName? "ship_cost" = some .shipCost := by decide
  have valid : (Craft.ofNames []).validate = .ok () := rfl
  have complements : ComplementsOperator cheaperThan.params
      [("op", .text "gte"), ("value", .text "5e3")] := by
    refine ⟨⟨.less, rfl, rfl⟩, fun key different => ?_⟩
    simp [cheaperThan, Entries.find?_cons, different]
  obtain ⟨complementCompiled, opposite, negations⟩ :=
    (complementary_rules named (by decide) compiled).2 _ complements
  obtain ⟨negated, negatedCompiled, same⟩ :=
    negations { strategy := "not", params := [("rule", cheaperThan.toJson)] } (by decide)
      ⟨_, rfl, cheaperThan.defines_toJson⟩
  refine ⟨complementCompiled, opposite _ valid, negated, negatedCompiled, ?_⟩
  rw [same _ valid]
  decide +kernel

end Condition
end Scrutineer
