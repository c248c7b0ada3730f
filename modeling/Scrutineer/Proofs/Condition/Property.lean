import Mathlib.Data.List.Forall2
import Scrutineer.Proofs.Craft.Presence

/-! A check concerns the bags of all parts that are instances of its base name,
as far as the target occurs in the names of the bags. It passes when there are
no such bags, and otherwise when some of them has the property with a value that
compares. Parts that bring nothing of the kind make no difference, nor do the
bags of the other kind. -/

namespace Scrutineer

namespace Bag

def Has (bag : Bag) (key : String) (value : Scalar) : Prop :=
  key = "name" ∧ value = .text bag.name ∨
    key ≠ "name" ∧ bag.properties.find? key = some value

theorem find?_eq_some_iff (bag : Bag) (key : String) (value : Scalar) :
    bag.find? key = some value ↔ bag.Has key value := by
  unfold find? Has
  by_cases own : key = "name"
  · simp [own, eq_comm]
  · simp [own]

def NameHolds (bag : Bag) (fragment : String) : Prop :=
  ∃ before after, bag.name = before ++ fragment ++ after

theorem nameContains_iff (bag : Bag) (fragment : String) :
    bag.nameContains fragment = true ↔ bag.NameHolds fragment := by
  unfold nameContains NameHolds
  rw [Text.containsFragment_iff]
  constructor
  · intro given
    rcases given with ⟨before, after, whole⟩
    refine ⟨String.ofList before, String.ofList after, ?_⟩
    rw [← String.toList_inj]
    simpa using whole
  · intro given
    rcases given with ⟨before, after, whole⟩
    exact ⟨before.toList, after.toList, by simp [whole]⟩

end Bag

namespace PropertyCheck

variable (check : PropertyCheck) (bagsOf : Part → List Bag)

/-- A part whose name is the base name, an underscore and a suffix has the bag,
and the target occurs in its name. -/
structure Concerns (craft : Craft) (bag : Bag) : Prop where
  part : ∃ part ∈ craft.parts, bag ∈ bagsOf part ∧
    ∃ suffix, suffix ≠ "" ∧ part.name = check.part ++ "_" ++ suffix
  target : bag.NameHolds check.target

def SatisfiedIn (bag : Bag) : Prop :=
  ∃ actual, bag.Has check.key actual ∧ check.comparator.compare actual check.value = true

theorem satisfiedBy_eq_true_iff (bag : Bag) :
    check.satisfiedBy bag = true ↔ check.SatisfiedIn bag := by
  unfold SatisfiedIn satisfiedBy
  simp only [← Bag.find?_eq_some_iff]
  cases bag.find? check.key with
  | none => simp
  | some actual => simp

theorem satisfiedIn_iff_of_has {bag : Bag} {stored : Scalar} (has : bag.Has check.key stored) :
    check.SatisfiedIn bag ↔ check.comparator.compare stored check.value = true := by
  constructor
  -- There is one value under the key.
  · intro satisfied
    obtain ⟨actual, otherHas, compares⟩ := satisfied
    rw [← Bag.find?_eq_some_iff] at has otherHas
    cases has.symm.trans otherHas
    exact compares
  · intro compares
    exact ⟨stored, has, compares⟩

def subjects (craft : Craft) : List Bag :=
  ((craft.partsMatching check.part).flatMap bagsOf).filter (·.nameContains check.target)

/-- Without parts there are no subjects either, so one look at these is enough. -/
theorem passes_eq (craft : Craft) :
    check.passes bagsOf craft =
      ((check.subjects bagsOf craft).isEmpty ||
        (check.subjects bagsOf craft).any check.satisfiedBy) := by
  unfold passes subjects
  cases craft.partsMatching check.part with
  | nil => rfl
  | cons part others =>
      simp only [List.isEmpty_cons, if_neg Bool.false_ne_true, Bool.if_true_left,
        Bool.decide_eq_true]

theorem mem_subjects_iff (present : check.part ≠ "") (craft : Craft) (bag : Bag) :
    bag ∈ check.subjects bagsOf craft ↔ check.Concerns bagsOf craft bag := by
  unfold subjects
  rw [List.mem_filter, List.mem_flatMap, Bag.nameContains_iff]
  simp only [Craft.mem_partsMatching_iff, Part.matchesBase, Name.matchesBase_iff]
  constructor
  · intro given
    rcases given with ⟨⟨part, ⟨member, _present, suffix, some, whole⟩, held⟩, target⟩
    exact ⟨⟨part, member, held, suffix, some, whole⟩, target⟩
  · intro concerns
    obtain ⟨⟨part, member, held, suffix, some, whole⟩, target⟩ := concerns
    exact ⟨⟨part, ⟨member, present, suffix, some, whole⟩, held⟩, target⟩

theorem passes_eq_true_iff (craft : Craft) :
    check.passes bagsOf craft = true ↔
      check.subjects bagsOf craft = [] ∨
        ∃ bag ∈ check.subjects bagsOf craft, check.SatisfiedIn bag := by
  simp only [passes_eq, Bool.or_eq_true, List.isEmpty_iff, List.any_eq_true, satisfiedBy_eq_true_iff]

theorem passes_iff_concerned (present : check.part ≠ "") (craft : Craft) :
    check.passes bagsOf craft = true ↔
      (∀ bag, ¬check.Concerns bagsOf craft bag) ∨
        ∃ bag, check.Concerns bagsOf craft bag ∧ check.SatisfiedIn bag := by
  rw [passes_eq_true_iff, List.eq_nil_iff_forall_not_mem]
  simp only [mem_subjects_iff check bagsOf present]

/-! ### What each part brings -/

def subjectsOf (part : Part) : List Bag :=
  if part.matchesBase check.part then (bagsOf part).filter (·.nameContains check.target) else []

theorem subjects_eq_flatMap (craft : Craft) :
    check.subjects bagsOf craft = craft.parts.flatMap (check.subjectsOf bagsOf) := by
  unfold subjects Craft.partsMatching
  induction craft.parts with
  | nil => rfl
  | cons part rest ih =>
      rw [List.flatMap_cons, ← ih, subjectsOf, List.filter_cons]
      split
      · rw [List.flatMap_cons, List.filter_append]
      · rw [List.nil_append]

theorem subjectsOf_eq_nil {part : Part} (none : ∀ bag ∈ bagsOf part, ¬bag.NameHolds check.target) :
    check.subjectsOf bagsOf part = [] := by
  unfold subjectsOf
  split
  · apply List.filter_eq_nil_iff.mpr
    intro bag member
    rw [Bag.nameContains_iff]
    exact none bag member
  · rfl

theorem subjects_of_empty_base (empty : check.part = "") (craft : Craft) :
    check.subjects bagsOf craft = [] := by
  have none : craft.partsMatching check.part = [] := by
    apply List.filter_eq_nil_iff.mpr
    intro part _member found
    exact ((Name.matchesBase_iff part.name check.part).mp found).1 empty
  unfold subjects
  rw [none]
  rfl

/-- The parts have the same names and the same bags of one kind. -/
def SameBags (part other : Part) : Prop :=
  part.name = other.name ∧ bagsOf part = bagsOf other

theorem flatMap_subjectsOf_eq {parts others : List Part}
    (same : List.Forall₂ (SameBags bagsOf) parts others) :
    parts.flatMap (check.subjectsOf bagsOf) = others.flatMap (check.subjectsOf bagsOf) := by
  induction same with
  | nil => rfl
  | cons alike _rest ih =>
      rw [List.flatMap_cons, List.flatMap_cons, ih, subjectsOf, subjectsOf, Part.matchesBase,
        Part.matchesBase, alike.1, alike.2]

/-! ### When a check passes -/

/-- What a rule says that checks a property of the bags of one kind. -/
structure ExistsOrVacuous (holds : Craft → Bool) : Prop where
  holds_iff : check.part ≠ "" → ∀ craft, holds craft = true ↔
    (∀ bag, ¬check.Concerns bagsOf craft bag) ∨
      ∃ bag, check.Concerns bagsOf craft bag ∧ check.SatisfiedIn bag
  emptyBase : check.part = "" → ∀ craft, holds craft = true
  missingKey : ∀ bag : Bag, (∀ actual, ¬bag.Has check.key actual) → ¬check.SatisfiedIn bag
  formless : ∀ (bag : Bag) (actual : Scalar), bag.Has check.key actual →
    check.comparator.form.of? actual = none → ¬check.SatisfiedIn bag
  withoutTarget : ∀ (craft : Craft) (before : List Part) (part : Part) (after : List Part),
    craft.parts = before ++ part :: after → (∀ bag ∈ bagsOf part, ¬bag.NameHolds check.target) →
      holds craft = holds { craft with parts := before ++ after }
  nothingElse : ∀ craft other : Craft,
    List.Forall₂ (SameBags bagsOf) craft.parts other.parts → holds craft = holds other

theorem existsOrVacuous_passes : check.ExistsOrVacuous bagsOf (check.passes bagsOf) where
  holds_iff := check.passes_iff_concerned bagsOf
  emptyBase := by
    intro empty craft
    exact (check.passes_eq_true_iff bagsOf craft).mpr
      (.inl (check.subjects_of_empty_base bagsOf empty craft))
  missingKey := by
    intro bag missing satisfied
    obtain ⟨actual, has, _compares⟩ := satisfied
    exact missing actual has
  formless := by
    intro bag actual has unknown
    rw [check.satisfiedIn_iff_of_has has, Comparator.compare, unknown]
    simp
  withoutTarget := by
    intro craft before part after listed none
    have subjects : check.subjects bagsOf craft =
        check.subjects bagsOf { craft with parts := before ++ after } := by
      rw [subjects_eq_flatMap, subjects_eq_flatMap, listed, List.flatMap_append,
        List.flatMap_cons, check.subjectsOf_eq_nil bagsOf none, List.nil_append,
        ← List.flatMap_append]
    rw [passes_eq, passes_eq, subjects]
  nothingElse := by
    intro craft other same
    rw [passes_eq, passes_eq, subjects_eq_flatMap, subjects_eq_flatMap, check.flatMap_subjectsOf_eq bagsOf same]

end PropertyCheck

namespace Condition

theorem property_rules_exist_or_vacuous (check : PropertyCheck) :
    check.ExistsOrVacuous Part.modules (fun craft => (moduleProperty check).holds craft) ∧
      check.ExistsOrVacuous Part.resources (fun craft => (resourceProperty check).holds craft) :=
  ⟨check.existsOrVacuous_passes Part.modules, check.existsOrVacuous_passes Part.resources⟩

private def asksForThrust (base : String) : PropertyCheck where
  part := base
  target := "Engine"
  key := "thrust"
  comparator := { operator := .greater, form := .double }
  value := .number .one

private def engineNamed (name : String) (thrust : Scalar) : Part where
  name := name
  modules := [(Bag.ofName "ModuleEngine").insert "thrust" thrust]
  resources := [(Bag.ofName "Engine oil").insert "thrust" (.text "200")]

private def craftOf (parts : List Part) : Craft :=
  (Craft.bare .hangar { x := .zero, y := .zero, z := .zero }).withParts parts

/-- An engine without enough thrust fails, whatever its resources say and
whatever part without modules stands in front of it. -/
theorem property_rules_of_weak_engine :
    (moduleProperty (asksForThrust "engine")).holds
        (craftOf [⟨"engine_1", [], []⟩, engineNamed "engine_2" (.text "0.5")]) = false ∧
      (moduleProperty (asksForThrust "engine")).holds
        { craftOf [⟨"engine_1", [], []⟩, engineNamed "engine_2" (.text "0.5")] with
          parts := [engineNamed "engine_2" (.text "0.5")] } = false := by
  have rules := (property_rules_exist_or_vacuous (asksForThrust "engine")).1
  have fails : (moduleProperty (asksForThrust "engine")).holds
      (craftOf [⟨"engine_1", [], []⟩, engineNamed "engine_2" (.text "0.5")]) = false := by
    decide +kernel
  have without := rules.withoutTarget
    (craftOf [⟨"engine_1", [], []⟩, engineNamed "engine_2" (.text "0.5")]) [] ⟨"engine_1", [], []⟩
    [engineNamed "engine_2" (.text "0.5")] rfl (by simp)
  exact ⟨fails, without.symm.trans fails⟩

/-- The part `_1` is no instance of the empty base name, though its name is that
base, an underscore and a suffix; its weak engine does not fail the check. -/
theorem engine_without_base_not_concerned :
    ¬((moduleProperty (asksForThrust "")).holds
          (craftOf [engineNamed "_1" (.text "0.5")]) = true ↔
        (∀ bag, ¬(asksForThrust "").Concerns Part.modules
          (craftOf [engineNamed "_1" (.text "0.5")]) bag) ∨
        ∃ bag, (asksForThrust "").Concerns Part.modules
            (craftOf [engineNamed "_1" (.text "0.5")]) bag ∧
          (asksForThrust "").SatisfiedIn bag) := by
  intro stated
  have passes : (moduleProperty (asksForThrust "")).holds
      (craftOf [engineNamed "_1" (.text "0.5")]) = true := by decide +kernel
  have concerned : (asksForThrust "").Concerns Part.modules
      (craftOf [engineNamed "_1" (.text "0.5")])
      ((Bag.ofName "ModuleEngine").insert "thrust" (.text "0.5")) :=
    ⟨⟨engineNamed "_1" (.text "0.5"), List.mem_singleton_self _, List.mem_singleton_self _, "1",
      by decide, by decide⟩, "Module", "", by decide⟩
  rcases stated.mp passes with vacuous | ⟨bag, concerns, satisfied⟩
  · exact vacuous _ concerned
  · obtain ⟨⟨part, member, held, _named⟩, _target⟩ := concerns
    cases List.mem_singleton.mp member
    cases List.mem_singleton.mp held
    rw [← PropertyCheck.satisfiedBy_eq_true_iff] at satisfied
    revert satisfied
    decide +kernel

end Condition
end Scrutineer
