import Scrutineer.Condition.Basic
import Scrutineer.Proofs.Craft.Loading
import Scrutineer.Proofs.Craft.Name

/-! Instances of a base name are found by their names, where the base may be any part
of the name up to an underscore; the part map knows for each part only the longest
such base. The two ways agree on a base when no instance of it has an underscore in
its suffix, and otherwise the part map knows fewer. -/

namespace Scrutineer
namespace Craft

/-- No instance of a base name has an underscore in its suffix. -/
def SuffixesArePlain (craft : Craft) (base : String) : Prop :=
  ∀ part ∈ craft.parts, ∀ suffix, suffix ≠ "" → part.name = base ++ "_" ++ suffix →
    '_' ∉ suffix.toList

theorem mem_partsMatching_iff (craft : Craft) (base : String) (part : Part) :
    part ∈ craft.partsMatching base ↔ part ∈ craft.parts ∧ part.matchesBase base = true :=
  List.mem_filter

/-- Suffixes are plain when the base is the own base name of its instances. -/
theorem suffixesArePlain_iff (craft : Craft) {base : String} (present : base ≠ "") :
    craft.SuffixesArePlain base ↔ ∀ part ∈ craft.partsMatching base, part.base? = some base := by
  constructor
  · intro plain part member
    obtain ⟨within, found⟩ := (mem_partsMatching_iff craft base part).mp member
    obtain ⟨_present, suffix, some, whole⟩ := (Name.matchesBase_iff part.name base).mp found
    exact (Name.base?_eq_some_iff part.name base).mpr
      ⟨present, suffix, some, plain part within suffix some whole, whole⟩
  · intro own part within suffix some whole
    have found := (Name.matchesBase_iff part.name base).mpr ⟨present, suffix, some, whole⟩
    have member := (mem_partsMatching_iff craft base part).mpr ⟨within, found⟩
    obtain ⟨_present, other, _some, plain, again⟩ :=
      (Name.base?_eq_some_iff part.name base).mp (own part member)
    rw [whole] at again
    rw [Name.suffix_unique again]
    exact plain

theorem occurrences_eq_countP (craft : Craft) (base : String) :
    PartMap.occurrences craft.parts base =
      (craft.partsMatching base).countP fun part => part.base? == some base := by
  rw [PartMap.occurrences, partsMatching, List.countP_filter]
  apply List.countP_congr
  intro part _member
  rw [Bool.and_eq_true, beq_iff_eq]
  constructor
  · intro own
    exact ⟨own, Name.matchesBase_of_base? own⟩
  · intro both
    exact both.1

end Craft

namespace Condition

theorem holds_partExists_iff (craft : Craft) (base : String) :
    (partExists base).holds craft = true ↔ ∃ part ∈ craft.parts, part.matchesBase base = true := by
  rw [holds, Bool.not_eq_true', List.isEmpty_eq_false_iff_exists_mem]
  simp only [Craft.mem_partsMatching_iff]

theorem holds_partNotExists (craft : Craft) (base : String) :
    (partNotExists base).holds craft = !(partExists base).holds craft := by
  rw [holds, holds, Bool.not_not]

theorem holds_partSetContains_any_iff {craft : Craft} (counts : craft.CountsItsParts)
    (names : List String) :
    (partSetContains names .any).holds craft = true ↔
      ∃ name ∈ names, ∃ part ∈ craft.parts, part.base? = some name := by
  rw [holds, SetMatcher.holds, List.any_eq_true]
  apply exists_congr
  intro name
  apply and_congr_right
  intro _member
  rw [Craft.containsBase, counts, PartMap.contains_ofParts_iff]

end Condition

namespace Craft

theorem countOf_of_countsItsParts {craft : Craft} (counts : craft.CountsItsParts) (base : String) :
    craft.countOf base = UInt32.ofNat
      ((craft.partsMatching base).countP fun part => part.base? == some base) := by
  rw [countOf, counts, PartMap.getD_find?_ofParts, occurrences_eq_countP]

theorem exists_iff_instance (craft : Craft) (base : String) :
    (Condition.partExists base).holds craft = true ↔ craft.partsMatching base ≠ [] := by
  rw [Condition.holds, Bool.not_eq_true', List.isEmpty_eq_false_iff]

theorem contains_iff_own_instance {craft : Craft} (counts : craft.CountsItsParts) (base : String) :
    (Condition.partSetContains [base] .any).holds craft = true ↔
      ∃ part ∈ craft.partsMatching base, part.base? = some base := by
  rw [Condition.holds_partSetContains_any_iff counts]
  constructor
  · intro given
    rcases given with ⟨name, listed, part, within, own⟩
    rw [List.mem_singleton.mp listed] at own
    have found := Name.matchesBase_of_base? own
    exact ⟨part, (mem_partsMatching_iff craft base part).mpr ⟨within, found⟩, own⟩
  · intro given
    rcases given with ⟨part, member, own⟩
    exact ⟨base, List.mem_singleton_self base, part,
      ((mem_partsMatching_iff craft base part).mp member).1, own⟩

theorem instance_of_contains {craft : Craft} (counts : craft.CountsItsParts) {base : String}
    (contained : (Condition.partSetContains [base] .any).holds craft = true) :
    craft.partsMatching base ≠ [] := by
  obtain ⟨part, member, _own⟩ := (contains_iff_own_instance counts base).mp contained
  exact List.ne_nil_of_mem member

theorem countP_own_eq_length_iff (craft : Craft) {base : String} (present : base ≠ "") :
    (craft.partsMatching base).countP (fun part => part.base? == some base) =
        (craft.partsMatching base).length ↔
      craft.SuffixesArePlain base := by
  rw [List.countP_eq_length, suffixesArePlain_iff craft present]
  simp only [beq_iff_eq]

/-- The names agree with the part map on a base where there is no instance, or
some instance that has it for its own. -/
theorem exists_eq_contains_iff {craft : Craft} (counts : craft.CountsItsParts) (base : String) :
    (Condition.partExists base).holds craft =
        (Condition.partSetContains [base] .any).holds craft ↔
      craft.partsMatching base = [] ∨
        ∃ part ∈ craft.partsMatching base, part.base? = some base := by
  rw [← contains_iff_own_instance counts, Bool.eq_iff_iff, exists_iff_instance]
  constructor
  · intro same
    by_cases none : craft.partsMatching base = []
    · exact .inl none
    · exact .inr (same.mp none)
  · intro given
    rcases given with none | contained
    · constructor
      · intro some
        exact absurd none some
      · intro contained
        exact instance_of_contains counts contained
    · exact ⟨fun _ => contained, fun _ => instance_of_contains counts contained⟩

theorem toNat_countOf_of_countsItsParts {craft : Craft} (counts : craft.CountsItsParts)
    (base : String) (few : craft.parts.length < UInt32.size) :
    (craft.countOf base).toNat =
      (craft.partsMatching base).countP fun part => part.base? == some base := by
  rw [countOf_of_countsItsParts counts, ← occurrences_eq_countP]
  exact PartMap.toNat_ofNat_occurrences few base

/-- The two ways of asking about a base name. The part map finds no more than
the names do; both find the same, in presence and in number, when suffixes are
plain, and the numbers are the same in no other case. -/
theorem presence_and_count_of_derived (craft : Craft) (derived : craft.HasDerivedMap)
    (base : String) (clean : Name.IsClean base) :
    ((Condition.partSetContains [base] .any).holds craft = true →
        (Condition.partExists base).holds craft = true) ∧
      ((Condition.partExists base).holds craft =
          (Condition.partSetContains [base] .any).holds craft ↔
        craft.partsMatching base = [] ∨
          ∃ part ∈ craft.partsMatching base, part.base? = some base) ∧
      craft.countOf base = UInt32.ofNat
        ((craft.partsMatching base).countP fun part => part.base? == some base) ∧
      (craft.SuffixesArePlain base →
        (Condition.partExists base).holds craft =
            (Condition.partSetContains [base] .any).holds craft ∧
          craft.countOf base = UInt32.ofNat (craft.partsMatching base).length) ∧
      (craft.parts.length < UInt32.size →
        (craft.countOf base).toNat = (craft.partsMatching base).length →
          craft.SuffixesArePlain base) := by
  have counts := (hasDerivedMap_iff_countsItsParts craft).mp derived
  refine ⟨?_, exists_eq_contains_iff counts base, countOf_of_countsItsParts counts base, ?_, ?_⟩
  · intro contained
    exact (exists_iff_instance craft base).mpr (instance_of_contains counts contained)
  · intro plain
    constructor
    · rw [exists_eq_contains_iff counts]
      have own := (suffixesArePlain_iff craft clean.1).mp plain
      cases matching : craft.partsMatching base with
      | nil => exact .inl rfl
      | cons part rest =>
          rw [matching] at own
          exact .inr ⟨part, List.mem_cons_self, own part List.mem_cons_self⟩
    · rw [countOf_of_countsItsParts counts, (countP_own_eq_length_iff craft clean.1).mpr plain]
  · intro few same
    rw [toNat_countOf_of_countsItsParts counts base few] at same
    exact (countP_own_eq_length_iff craft clean.1).mp same

def ofNames (names : List String) : Craft :=
  (bare .hangar { x := .zero, y := .zero, z := .zero }).withParts
    (names.map fun name => { name, modules := [], resources := [] })

/-- Of two engines with plain suffixes both are found and counted. -/
theorem presence_and_count_of_two_engines :
    (Condition.partExists "engine").holds (ofNames ["engine_1", "engine_2"]) =
        (Condition.partSetContains ["engine"] .any).holds (ofNames ["engine_1", "engine_2"]) ∧
      (ofNames ["engine_1", "engine_2"]).countOf "engine" = 2 := by
  have known := presence_and_count_of_derived (ofNames ["engine_1", "engine_2"]) (.given _ _)
    "engine" (by decide)
  have plain : (ofNames ["engine_1", "engine_2"]).SuffixesArePlain "engine" := by
    rw [suffixesArePlain_iff _ (by decide)]
    decide
  exact known.2.2.2.1 plain

/-- The instance `fuel_tank_1` of `fuel` is found by its name, but it is counted
under `fuel_tank` only. -/
theorem fuel_tank_not_counted_as_fuel :
    Name.IsClean "fuel" ∧ (ofNames ["fuel_tank_1"]).HasDerivedMap ∧
      ¬ ((Condition.partExists "fuel").holds (ofNames ["fuel_tank_1"]) = true ↔
        (Condition.partSetContains ["fuel"] .any).holds (ofNames ["fuel_tank_1"]) = true) ∧
      ((ofNames ["fuel_tank_1"]).countOf "fuel").toNat ≠
        ((ofNames ["fuel_tank_1"]).partsMatching "fuel").length :=
  ⟨by decide, .given _ _, by decide, by decide⟩

end Craft
end Scrutineer
