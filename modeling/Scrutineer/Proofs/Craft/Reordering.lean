import Mathlib.Data.List.Forall2
import Scrutineer.Proofs.Craft.Loading

/-! Two crafts are reordered when they agree in everything but the order of their
parts and, inside of each part, the orders of its modules and of its resources. Their
part maps are the same, whether they were given with the crafts or are counted from
the parts. -/

namespace Scrutineer

namespace Part

structure Reorders (part other : Part) : Prop where
  name : part.name = other.name
  modules : part.modules.Perm other.modules
  resources : part.resources.Perm other.resources

/-- The parts come in another order, and so does what each of them lists. -/
def ListReorders (parts others : List Part) : Prop :=
  ∃ between, parts.Perm between ∧ List.Forall₂ Reorders between others

variable {parts others : List Part}

theorem ListReorders.length_eq (reorders : ListReorders parts others) :
    parts.length = others.length := by
  obtain ⟨between, moved, alike⟩ := reorders
  exact moved.length_eq.trans alike.length_eq

theorem ListReorders.filter (reorders : ListReorders parts others) {keep : Part → Bool}
    (byName : ∀ part other : Part, part.name = other.name → keep part = keep other) :
    ListReorders (parts.filter keep) (others.filter keep) := by
  obtain ⟨between, moved, alike⟩ := reorders
  refine ⟨between.filter keep, moved.filter keep, ?_⟩
  apply List.rel_filter _ alike
  intro part other same
  exact Bool.eq_iff_iff.mp (byName part other same.name)

theorem ListReorders.countP_eq (reorders : ListReorders parts others) {counted : Part → Bool}
    (byName : ∀ part other : Part, part.name = other.name → counted part = counted other) :
    parts.countP counted = others.countP counted := by
  rw [List.countP_eq_length_filter, List.countP_eq_length_filter]
  exact (reorders.filter byName).length_eq

theorem ListReorders.flatMap_perm (reorders : ListReorders parts others) {bagsOf : Part → List Bag}
    (each : ∀ part other : Part, part.Reorders other → (bagsOf part).Perm (bagsOf other)) :
    (parts.flatMap bagsOf).Perm (others.flatMap bagsOf) := by
  obtain ⟨between, moved, alike⟩ := reorders
  refine (moved.flatMap_right bagsOf).trans ?_
  clear moved
  induction alike with
  | nil => exact .nil
  | cons same _rest ih =>
      rw [List.flatMap_cons, List.flatMap_cons]
      exact (each _ _ same).append ih

end Part

theorem PartMap.ofParts_eq_of_reorders {parts others : List Part}
    (reorders : Part.ListReorders parts others) : ofParts parts = ofParts others := by
  apply Dictionary.ext_find?
  intro base
  have counted : occurrences parts base = occurrences others base := by
    apply reorders.countP_eq
    intro part other same
    rw [Part.base?, Part.base?, same]
  rw [find?_ofParts, find?_ofParts, counted]

namespace Craft

structure Reorders (craft other : Craft) : Prop where
  building : craft.building = other.building
  size : craft.size = other.size
  parts : Part.ListReorders craft.parts other.parts
  cost : craft.cost = other.cost
  mass : craft.mass = other.mass
  points : craft.points = other.points
  /-- The part map was given with both crafts, or is derived in both. -/
  partMap : craft.partMap = other.partMap ∨ craft.CountsItsParts ∧ other.CountsItsParts

namespace Reorders

variable {craft other : Craft}

theorem partMap_eq (reorders : craft.Reorders other) : craft.partMap = other.partMap := by
  rcases reorders.partMap with given | ⟨counts, otherCounts⟩
  · exact given
  · exact counts.trans ((PartMap.ofParts_eq_of_reorders reorders.parts).trans otherCounts.symm)

theorem partsMatching (reorders : craft.Reorders other) (base : String) :
    Part.ListReorders (craft.partsMatching base) (other.partsMatching base) := by
  apply reorders.parts.filter
  intro part another same
  rw [Part.matchesBase, Part.matchesBase, same]

theorem partsMatching_isEmpty (reorders : craft.Reorders other) (base : String) :
    (craft.partsMatching base).isEmpty = (other.partsMatching base).isEmpty := by
  rw [Bool.eq_iff_iff, List.isEmpty_iff_length_eq_zero, List.isEmpty_iff_length_eq_zero,
    (reorders.partsMatching base).length_eq]

theorem containsBase_eq (reorders : craft.Reorders other) (base : String) :
    craft.containsBase base = other.containsBase base := by
  rw [containsBase, containsBase, reorders.partMap_eq]

theorem countOf_eq (reorders : craft.Reorders other) (base : String) :
    craft.countOf base = other.countOf base := by
  rw [countOf, countOf, reorders.partMap_eq]

theorem validate_eq (reorders : craft.Reorders other) : craft.validate = other.validate := by
  have quantities : craft.quantities = other.quantities := by
    rw [Craft.quantities, Craft.quantities, reorders.size, reorders.cost, reorders.mass,
      reorders.points]
  rw [validate, validate, firstNotFinite?, firstNotFinite?, quantities]

end Reorders

end Craft
end Scrutineer
