import Scrutineer.Proofs.Rule.Written

/-! The conditions that rules compile to. They are the well-formed ones, all of them
and no others. -/

namespace Scrutineer

/-! ### Rules compile to well-formed conditions -/

namespace Strategy

theorem Source.MakesBound.wellFormed {source : Source} {operatorKey limitKey : String}
    {bound : Bound} (made : source.MakesBound operatorKey limitKey bound) : bound.WellFormed := by
  obtain ⟨value, _found, _present, accepted⟩ :=
    (Slot.read_eq_ok_iff Slot.double source.params limitKey bound.limit).mp made.limit
  exact Slot.isFinite_of_double accepted

theorem Source.isClean_of_read {source : Source} {key name : String}
    (read : Slot.name.read source.params key = .ok name) : Name.IsClean name := by
  obtain ⟨value, _found, _present, accepted⟩ :=
    (Slot.read_eq_ok_iff Slot.name source.params key name).mp read
  exact Slot.isClean_of_name accepted

theorem Source.wellFormedSet_of_read {source : Source} {key : String} {names : List String}
    (read : Slot.partSet.read source.params key = .ok names) : Name.WellFormedSet names := by
  obtain ⟨value, _found, _present, accepted⟩ :=
    (Slot.read_eq_ok_iff Slot.partSet source.params key names).mp read
  exact Slot.wellFormedSet_of_partSet accepted

theorem Source.MakesCheck.wellFormed {source : Source} {targetKey : String} {form : Form}
    {check : PropertyCheck} (made : source.MakesCheck targetKey form check) : check.WellFormed where
  part := Source.isClean_of_read made.part
  target := Source.isClean_of_read made.target
  key := Source.isClean_of_read made.key
  value := by
    obtain ⟨value, _found, _present, accepted⟩ :=
      (Slot.read_eq_ok_iff (Slot.reference form) source.params "value" check.value).mp made.value
    rw [made.form]
    exact Slot.isReference_of_reference accepted

theorem Makes.wellFormed {source : Source} {strategy : Strategy} {condition : Condition}
    (children : ∀ key child, source.nested key = .ok child → child.WellFormed)
    (makes : Makes source strategy condition) : condition.WellFormed := by
  cases makes with
  | partCount hasOperator hasValue => trivial
  | partExists hasPart | partNotExists hasPart => exact Source.isClean_of_read hasPart
  | partSetCount hasParts hasOperator hasValue => exact Source.wellFormedSet_of_read hasParts
  | partSetContains hasParts hasMatcher => exact Source.wellFormedSet_of_read hasParts
  | doubleModuleProperty hasCheck | countModuleProperty hasCheck | textModuleProperty hasCheck =>
      exact hasCheck.wellFormed
  | resourceProperty hasCheck => exact ⟨hasCheck.wellFormed, hasCheck.form⟩
  | shipCost hasBound | shipMass hasBound | shipPoints hasBound => exact hasBound.wellFormed
  | shipSize hasX hasY hasZ => exact ⟨hasX.wellFormed, hasY.wellFormed, hasZ.wellFormed⟩
  | shipLocation hasBuilding => trivial
  | not hasChild =>
      have inner := children "rule" _ hasChild
      exact inner
  | and hasLeft hasRight | or hasLeft hasRight | xor hasLeft hasRight =>
      exact ⟨children "a" _ hasLeft, children "b" _ hasRight⟩

end Strategy

namespace Condition

theorem wellFormed_of_compile {strategy : String} {params : Members} {condition : Condition}
    (compiled : compile strategy params = .ok condition) : condition.WellFormed := by
  -- The recursion is over the parameters; the hypothesis is about the rules inside of them.
  induction strategy, params using compile_induction generalizing condition with
  | step strategy params ih =>
      obtain ⟨known, _named, makes⟩ := (compile_eq_ok_iff strategy params condition).mp compiled
      apply makes.wellFormed
      intro key child hasChild
      obtain ⟨inner, read, innerCompiled⟩ := (nestedIn_eq_ok_iff params key child).mp hasChild
      exact ih key inner read innerCompiled

/-! ### Well-formed conditions are compiled from rules -/

/-- A condition is what some rule compiles to exactly when it is well-formed,
and parameters in the order of their keys do for that. -/
theorem exists_compile_eq_ok_iff_wellFormed (condition : Condition) :
    ((∃ strategy params, compile strategy params = .ok condition) ↔ condition.WellFormed) ∧
      ((∃ strategy params,
          Json.Canonical (.object params) ∧ compile strategy params = .ok condition) ↔
        condition.WellFormed) := by
  have written (wellFormed : condition.WellFormed) := compile_strategy_params wellFormed
  constructor
  · constructor
    · intro given
      rcases given with ⟨strategy, params, compiled⟩
      exact wellFormed_of_compile compiled
    · intro wellFormed
      exact ⟨condition.strategy.name, condition.params, written wellFormed⟩
  · constructor
    · intro given
      rcases given with ⟨strategy, params, _canonical, compiled⟩
      exact wellFormed_of_compile compiled
    · intro wellFormed
      exact ⟨condition.strategy.name, condition.params, condition.canonical_params,
        written wellFormed⟩

end Condition
end Scrutineer
