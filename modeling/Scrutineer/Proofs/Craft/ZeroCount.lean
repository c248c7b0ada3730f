import Scrutineer.Proofs.Comparison.Exactness
import Scrutineer.Proofs.Condition.PartSet
import Scrutineer.Proofs.Craft.ExactCount
import Scrutineer.Proofs.Craft.RoundTrip

/-! A part map that comes with a design file may give a base name the count zero. Such
a name is present for the rules about presence and absent for the rules about counts.
For every other name, and so for every name in a map that is derived from the parts,
the two kinds of rules agree. -/

namespace Scrutineer

namespace Condition

variable (craft : Craft) (base : String)

theorem holds_partSetContains_any_singleton :
    (partSetContains [base] .any).holds craft = craft.containsBase base :=
  Bool.or_false _

theorem holds_partSetContains_none_singleton :
    (partSetContains [base] .none).holds craft = !craft.containsBase base :=
  congrArg (!·) (Bool.or_false _)

theorem toInt_totalOf_singleton :
    (totalOf craft [base]).toInt = (craft.countOf base).toNat := by
  rw [toInt_totalOf craft (by simp), sumOf, List.map_singleton, List.sum_singleton]

theorem holds_partSetCount_atLeastOne_iff :
    (partSetCount [base] .greaterOrEqual 1).holds craft = true ↔ craft.countOf base ≠ 0 := by
  have relates : (partSetCount [base] .greaterOrEqual 1).holds craft = true ↔
      (1 : Int) ≤ (craft.countOf base).toNat := by
    rw [holds, toInt_totalOf_singleton]
    exact Operator.greaterOrEqual.holdsOfInts_iff _ _
  rw [relates, ne_eq, ← UInt32.toNat_inj]
  change _ ↔ ¬(craft.countOf base).toNat = 0
  omega

theorem holds_partSetCount_zero_iff :
    (partSetCount [base] .equal 0).holds craft = true ↔ craft.countOf base = 0 := by
  have relates : (partSetCount [base] .equal 0).holds craft = true ↔
      ((craft.countOf base).toNat : Int) = 0 := by
    rw [holds, toInt_totalOf_singleton]
    exact Operator.equal.holdsOfInts_iff _ _
  rw [relates, ← UInt32.toNat_inj]
  change _ ↔ (craft.countOf base).toNat = 0
  omega

end Condition

namespace Craft

/-- A name is present just when it has a count, unless it has the count zero. -/
theorem contains_iff_counted_iff (craft : Craft) (base : String) :
    (craft.containsBase base = true ↔ craft.countOf base ≠ 0) ↔
      craft.partMap.find? base ≠ some 0 := by
  unfold containsBase Dictionary.contains countOf
  cases craft.partMap.find? base with
  | none => simp
  | some count => simp

theorem find?_ne_zero_of_countsItsParts {craft : Craft} (counts : craft.CountsItsParts)
    (few : craft.parts.length < UInt32.size) (base : String) :
    craft.partMap.find? base ≠ some 0 := by
  intro zero
  rw [counts, PartMap.find?_ofParts_eq_some_iff few] at zero
  exact absurd zero.2 (by decide)

/-- A name with the count zero is present without being counted. -/
structure PresentWithoutCount (craft : Craft) (base : String) : Prop where
  any : (Condition.partSetContains [base] .any).holds craft = true
  none : (Condition.partSetContains [base] .none).holds craft = false
  atLeastOne : (Condition.partSetCount [base] .greaterOrEqual 1).holds craft = false
  zero : (Condition.partSetCount [base] .equal 0).holds craft = true

theorem presentWithoutCount_of_zero {craft : Craft} {base : String}
    (zero : craft.partMap.find? base = some 0) : craft.PresentWithoutCount base := by
  have present : craft.containsBase base = true := by
    rw [containsBase, Dictionary.contains, zero]
    rfl
  have uncounted : craft.countOf base = 0 := by
    rw [countOf, zero]
    rfl
  constructor
  · rw [Condition.holds_partSetContains_any_singleton, present]
  · rw [Condition.holds_partSetContains_none_singleton, present]
    rfl
  · rw [← Bool.not_eq_true, Condition.holds_partSetCount_atLeastOne_iff]
    exact not_not_intro uncounted
  · exact (Condition.holds_partSetCount_zero_iff craft base).mpr uncounted

/-- The rules about presence and about counts agree on a base name when the part
map does not give it the count zero, and only then. A part map that is derived
from the parts gives no name that count. -/
theorem presence_agrees_with_count_iff (craft : Craft) (base : String) :
    ((Condition.partSetContains [base] .any).holds craft =
        (Condition.partSetCount [base] .greaterOrEqual 1).holds craft ↔
      craft.partMap.find? base ≠ some 0) ∧
    ((Condition.partSetContains [base] .none).holds craft =
        (Condition.partSetCount [base] .equal 0).holds craft ↔
      craft.partMap.find? base ≠ some 0) ∧
    (craft.partMap.find? base = some 0 → craft.PresentWithoutCount base) ∧
    (craft.HasDerivedMap → craft.parts.length < UInt32.size →
      craft.partMap.find? base ≠ some 0) := by
  have agree := contains_iff_counted_iff craft base
  refine ⟨?_, ?_, presentWithoutCount_of_zero, ?_⟩
  · rw [← agree, Bool.eq_iff_iff, Condition.holds_partSetCount_atLeastOne_iff,
      Condition.holds_partSetContains_any_singleton]
  · rw [← agree, Bool.eq_iff_iff, Condition.holds_partSetCount_zero_iff,
      Condition.holds_partSetContains_none_singleton, Bool.not_eq_true', ← Bool.not_eq_true]
    exact not_iff_comm.trans iff_comm
  · intro derived few
    exact find?_ne_zero_of_countsItsParts ((hasDerivedMap_iff_countsItsParts craft).mp derived)
      few base

/-- In a map that is derived from two engines no name has the count zero, and
both kinds of rules agree on the engine. In a map that counts it zero times it is
present without being counted. -/
theorem presence_agrees_with_count_of_engines :
    (Condition.partSetContains ["engine"] .any).holds (ofNames ["engine_1", "engine_2"]) =
        (Condition.partSetCount ["engine"] .greaterOrEqual 1).holds
          (ofNames ["engine_1", "engine_2"]) ∧
      (Condition.partSetContains ["engine"] .none).holds (ofNames ["engine_1", "engine_2"]) =
        (Condition.partSetCount ["engine"] .equal 0).holds (ofNames ["engine_1", "engine_2"]) ∧
      ((ofNames []).withPartMap (.ofList [("engine", 0)])).PresentWithoutCount "engine" := by
  have derived := presence_agrees_with_count_iff (ofNames ["engine_1", "engine_2"]) "engine"
  have counted := derived.2.2.2 (.given _ _) (by decide)
  have given := presence_agrees_with_count_iff
    ((ofNames []).withPartMap (.ofList [("engine", 0)])) "engine"
  exact ⟨derived.1.mpr counted, derived.2.1.mpr counted, given.2.2.1 rfl⟩

/-- A design file may count its one engine zero times. It loads, and neither pair
of rules agrees on the engine. -/
theorem engine_present_without_count :
    ∃ craft, load (engineSnapshot [.object [("engine", .number (.ofWord 0))]]).compact = .ok craft ∧
      ¬((Condition.partSetContains ["engine"] .any).holds craft = true ↔
        (Condition.partSetCount ["engine"] .greaterOrEqual 1).holds craft = true) ∧
      ¬((Condition.partSetContains ["engine"] .none).holds craft = true ↔
        (Condition.partSetCount ["engine"] .equal 0).holds craft = true) := by
  have counted : (load (engineSnapshot [.object [("engine", .number (.ofWord 0))]]).compact
      ).toOption.bind (fun craft => craft.partMap.find? "engine") = some 0 := by decide +kernel
  cases loaded : load (engineSnapshot [.object [("engine", .number (.ofWord 0))]]).compact with
  | error fault =>
      rw [loaded] at counted
      cases counted
  | ok craft =>
      rw [loaded] at counted
      have engine := presentWithoutCount_of_zero counted
      refine ⟨craft, rfl, fun agree => ?_, fun agree => ?_⟩
      · exact Bool.false_ne_true (engine.atLeastOne.symm.trans (agree.mp engine.any))
      · exact Bool.false_ne_true (engine.none.symm.trans (agree.mpr engine.zero))

end Craft
end Scrutineer
