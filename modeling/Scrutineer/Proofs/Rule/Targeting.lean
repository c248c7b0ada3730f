import Scrutineer.Proofs.Craft.Presence
import Scrutineer.Proofs.Rule.Image

/-! A rule that names a base takes the characters away that names in rules do not
keep, before it looks for parts. A base name of clean characters is therefore asked
for as it is, and any other one cannot be asked of the part map at all. -/

namespace Scrutineer
namespace Definition

def partExists (base : String) : Definition :=
  { strategy := "part_exists", params := [("part", .text base)] }

def partNotExists (base : String) : Definition :=
  { strategy := "part_not_exists", params := [("part", .text base)] }

def partSetContains (base : String) : Definition :=
  { strategy := "part_set_contains"
    params := [("matcher", .text "any"), ("parts", .array [.text base])] }

/-- The rule compiles, and it gives this answer on a craft. -/
def Answers (definition : Definition) (craft : Craft) (answer : Bool) : Prop :=
  ∃ condition, Condition.compile definition.strategy definition.params = .ok condition ∧
    condition.holds craft = answer

end Definition

/-! ### What the rules ask -/

namespace Condition

private theorem read_part_eq_ok_iff (base part : String) :
    Slot.name.read [("part", .text base)] "part" = .ok part ↔
      Name.sanitize base ≠ "" ∧ Name.sanitize base = part := by
  rw [Slot.read_of_find? rfl Json.noConfusion]
  exact Slot.name_text_eq_ok_iff base part

theorem compile_partExists_eq_ok_iff (base : String) (condition : Condition) :
    compile "part_exists" [("part", .text base)] = .ok condition ↔
      Name.sanitize base ≠ "" ∧ condition = .partExists (Name.sanitize base) := by
  refine (compile_name_eq_ok_iff .partExists _ condition).trans ?_
  constructor
  · intro makes
    cases makes with
    | partExists hasPart =>
        obtain ⟨left, same⟩ := (read_part_eq_ok_iff base _).mp hasPart
        subst same
        exact ⟨left, rfl⟩
  · intro given
    rcases given with ⟨left, same⟩
    subst same
    exact .partExists ((read_part_eq_ok_iff base _).mpr ⟨left, rfl⟩)

theorem compile_partNotExists_eq_ok_iff (base : String) (condition : Condition) :
    compile "part_not_exists" [("part", .text base)] = .ok condition ↔
      Name.sanitize base ≠ "" ∧ condition = .partNotExists (Name.sanitize base) := by
  refine (compile_name_eq_ok_iff .partNotExists _ condition).trans ?_
  constructor
  · intro makes
    cases makes with
    | partNotExists hasPart =>
        obtain ⟨left, same⟩ := (read_part_eq_ok_iff base _).mp hasPart
        subst same
        exact ⟨left, rfl⟩
  · intro given
    rcases given with ⟨left, same⟩
    subst same
    exact .partNotExists ((read_part_eq_ok_iff base _).mpr ⟨left, rfl⟩)

theorem compile_partSetContains_eq_ok_iff (base : String) (condition : Condition) :
    compile "part_set_contains" [("matcher", .text "any"), ("parts", .array [.text base])] =
        .ok condition ↔
      Name.splitList base ≠ [] ∧ condition = .partSetContains (Name.splitList base) .any := by
  refine (compile_name_eq_ok_iff .partSetContains _ condition).trans ?_
  constructor
  · intro makes
    cases makes with
    | partSetContains hasParts hasMatcher =>
        have any := (Slot.read_of_find? rfl Json.noConfusion).symm.trans hasMatcher
        obtain ⟨left, same⟩ := (Slot.partSet_single_eq_ok_iff base _).mp
          ((Slot.read_of_find? rfl Json.noConfusion).symm.trans hasParts)
        cases any
        subst same
        exact ⟨left, rfl⟩
  · intro given
    rcases given with ⟨left, same⟩
    subst same
    have hasParts := (Slot.partSet_single_eq_ok_iff base _).mpr ⟨left, rfl⟩
    exact .partSetContains ((Slot.read_of_find? rfl Json.noConfusion).trans hasParts)
      ((Slot.read_of_find? rfl Json.noConfusion).trans (Slot.matcher_tag .any))

end Condition

/-! ### Asking for the own base name of a part -/

namespace Definition

theorem answers_partExists_iff (base : String) (craft : Craft) (answer : Bool) :
    (partExists base).Answers craft answer ↔
      Name.sanitize base ≠ "" ∧
        (Condition.partExists (Name.sanitize base)).holds craft = answer := by
  unfold Answers partExists
  simp only [Condition.compile_partExists_eq_ok_iff, and_assoc, exists_and_left, exists_eq_left]

theorem answers_partNotExists_iff (base : String) (craft : Craft) (answer : Bool) :
    (partNotExists base).Answers craft answer ↔
      Name.sanitize base ≠ "" ∧
        (Condition.partNotExists (Name.sanitize base)).holds craft = answer := by
  unfold Answers partNotExists
  simp only [Condition.compile_partNotExists_eq_ok_iff, and_assoc, exists_and_left, exists_eq_left]

theorem answers_partSetContains_iff (base : String) (craft : Craft) (answer : Bool) :
    (partSetContains base).Answers craft answer ↔
      Name.splitList base ≠ [] ∧
        (Condition.partSetContains (Name.splitList base) .any).holds craft = answer := by
  unfold Answers partSetContains
  simp only [Condition.compile_partSetContains_eq_ok_iff, and_assoc, exists_and_left,
    exists_eq_left]

theorem answers_partExists_lone_iff (craft : Craft) (part : Part) (base : String) :
    (partExists base).Answers (craft.withParts [part]) true ↔
      part.matchesBase (Name.sanitize base) = true := by
  rw [answers_partExists_iff, Condition.holds_partExists_iff]
  constructor
  · intro given
    rcases given with ⟨_left, other, within, found⟩
    rw [← List.mem_singleton.mp within]
    exact found
  · intro found
    have left := ((Name.matchesBase_iff part.name (Name.sanitize base)).mp found).1
    exact ⟨left, part, List.mem_singleton_self part, found⟩

/-- A part can be asked for by its own base name when that is clean. Of another
base name the rules ask what is left of it; the part may by chance be an
instance of that too, but the part map never has it from the part alone. -/
theorem answers_about_own_base (craft : Craft) (part : Part) (member : part ∈ craft.parts)
    (base : String) (own : part.base? = some base) :
    (Name.IsClean base →
        (partExists base).Answers craft true ∧ (partNotExists base).Answers craft false ∧
          (craft.HasDerivedMap → (partSetContains base).Answers craft true)) ∧
      (¬ Name.IsClean base →
        ((partExists base).Answers (craft.withParts [part]) true ↔
            part.matchesBase (Name.sanitize base) = true) ∧
          ¬ (partSetContains base).Answers (craft.withParts [part]) true) := by
  constructor
  · intro clean
    have found : (Condition.partExists base).holds craft = true :=
      (Condition.holds_partExists_iff craft base).mpr ⟨part, member, Name.matchesBase_of_base? own⟩
    have unchanged := clean.sanitize_eq
    refine ⟨?_, ?_, ?_⟩
    · rw [answers_partExists_iff, unchanged]
      exact ⟨clean.1, found⟩
    · rw [answers_partNotExists_iff, unchanged, Condition.holds_partNotExists, found]
      exact ⟨clean.1, rfl⟩
    · intro derived
      have counts := (Craft.hasDerivedMap_iff_countsItsParts craft).mp derived
      rw [answers_partSetContains_iff, Name.splitList_of_isClean clean,
        Condition.holds_partSetContains_any_iff counts]
      exact ⟨List.cons_ne_nil base [], base, List.mem_singleton_self base, part, member, own⟩
  · intro unclean
    refine ⟨answers_partExists_lone_iff craft part base, ?_⟩
    intro passes
    obtain ⟨_some, contained⟩ := (answers_partSetContains_iff base _ true).mp passes
    obtain ⟨name, listed, other, within, otherOwn⟩ :=
      (Condition.holds_partSetContains_any_iff (Craft.countsItsParts_withParts craft [part]) _).mp
        contained
    rw [List.mem_singleton.mp within, own] at otherOwn
    cases otherOwn
    -- The part map knows the base as it is, and the rule holds clean names only.
    exact unclean (Name.isClean_of_mem_splitList listed)

/-- The part `engine_1` can be asked for as `engine`. -/
theorem answers_about_engine :
    (partExists "engine").Answers (Craft.ofNames ["engine_1"]) true ∧
      (partNotExists "engine").Answers (Craft.ofNames ["engine_1"]) false ∧
      (partSetContains "engine").Answers (Craft.ofNames ["engine_1"]) true := by
  have known := answers_about_own_base (Craft.ofNames ["engine_1"])
    { name := "engine_1", modules := [], resources := [] } (by decide) "engine" (by decide)
  have asked := known.1 (by decide)
  exact ⟨asked.1, asked.2.1, asked.2.2 (.given _ _)⟩

/-- The part `fuel_tank_12` cannot be asked for by its own base name, from which
the rules drop the underscore. -/
theorem fuel_tank_not_asked_for :
    Name.base? "fuel_tank_12" = some "fuel_tank" ∧
      (Craft.ofNames ["fuel_tank_12"]).HasDerivedMap ∧
      ¬ (partExists "fuel_tank").Answers (Craft.ofNames ["fuel_tank_12"]) true ∧
      ¬ (partNotExists "fuel_tank").Answers (Craft.ofNames ["fuel_tank_12"]) false ∧
      ¬ (partSetContains "fuel_tank").Answers (Craft.ofNames ["fuel_tank_12"]) true := by
  refine ⟨by decide, .given _ _, ?_, ?_, ?_⟩
  · rw [answers_partExists_iff]
    decide
  · rw [answers_partNotExists_iff]
    decide
  · rw [answers_partSetContains_iff]
    decide

end Definition
end Scrutineer
