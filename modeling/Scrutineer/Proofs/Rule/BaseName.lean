import Scrutineer.Proofs.Rule.Image

/-! A part answers to what stands before any underscore of its name, unless nothing
follows that underscore. Its own base name is the longest of these, as long as the
name does not end in an underscore. Rules ask for base names without an underscore,
and a part answers to one of them at most. -/

namespace Scrutineer

namespace Condition

def baseNames : Condition → List String
  | .builtIn _ | .size .. | .partCount .. | .cost _ | .mass _ | .points _ => []
  | .partExists part | .partNotExists part => [part]
  | .partSetContains parts _ => parts
  | .partSetCount parts _ _ => parts
  | .moduleProperty check | .resourceProperty check => [check.part]
  | .not condition => condition.baseNames
  | .and left right | .or left right | .xor left right => left.baseNames ++ right.baseNames

theorem WellFormed.isClean_baseNames {condition : Condition} (wellFormed : condition.WellFormed) :
    ∀ base ∈ condition.baseNames, Name.IsClean base := by
  induction condition with
  | builtIn | size | partCount | cost | mass | points => exact List.forall_mem_nil _
  | partExists part | partNotExists part => exact List.forall_mem_singleton.mpr wellFormed
  | partSetContains parts matcher => exact wellFormed.2
  | partSetCount parts operator value => exact wellFormed.2
  | moduleProperty check => exact List.forall_mem_singleton.mpr wellFormed.part
  | resourceProperty check => exact List.forall_mem_singleton.mpr wellFormed.1.part
  | not condition ih => exact ih wellFormed
  | and left right leftIh rightIh | or left right leftIh rightIh | xor left right leftIh rightIh =>
      intro base member
      rcases List.mem_append.mp member with inLeft | inRight
      · exact leftIh wellFormed.1 base inLeft
      · exact rightIh wellFormed.2 base inRight

theorem not_mem_of_compiled_base {strategy : String} {params : Members} {condition : Condition}
    (compiled : compile strategy params = .ok condition) {base : String}
    (asked : base ∈ condition.baseNames) : '_' ∉ base.toList :=
  ((wellFormed_of_compile compiled).isClean_baseNames base asked).not_mem (by decide)

end Condition

/-- What the name of a part says about the base names that the part answers to. -/
structure Name.SpeaksOfBases (name : String) : Prop where
  answers : ∀ base, matchesBase name base = true ↔
    base ≠ "" ∧ ∃ suffix, suffix ≠ "" ∧ name = base ++ "_" ++ suffix
  own : ∀ base, base? name = some base ↔
    base ≠ "" ∧ ∃ suffix, suffix ≠ "" ∧ '_' ∉ suffix.toList ∧ name = base ++ "_" ++ suffix
  answersToOwn : ∀ base, base? name = some base → matchesBase name base = true
  /-- All other bases are leads of the own one, up to an underscore of it. -/
  others : ∀ base, base? name = some base → ∀ other, matchesBase name other = true ↔
    other = base ∨ other ≠ "" ∧ ∃ middle, base = other ++ "_" ++ middle
  longest : ∀ base, base? name = some base → ∀ other, matchesBase name other = true →
    other.length ≤ base.length ∧ other.utf8ByteSize ≤ base.utf8ByteSize
  unique : ∀ base other, '_' ∉ base.toList → '_' ∉ other.toList →
    matchesBase name base = true → matchesBase name other = true → base = other
  /-- Rules ask for such base names only, so a part answers to one of them at most. -/
  plainInRules : ∀ strategy params condition,
    Condition.compile strategy params = .ok condition →
      ∀ base ∈ condition.baseNames, '_' ∉ base.toList

/-- Every name speaks of bases by these rules. -/
theorem Name.speaksOfBases (name : String) : SpeaksOfBases name where
  answers := matchesBase_iff name
  own := base?_eq_some_iff name
  answersToOwn := fun _base => matchesBase_of_base?
  others := fun _base => matchesBase_iff_of_base?
  longest := by
    intro base found other accepted
    rcases (matchesBase_iff_of_base? found other).mp accepted with rfl | ⟨_present, middle, longer⟩
    · exact ⟨Nat.le_refl _, Nat.le_refl _⟩
    · rw [longer, String.append_assoc, String.length_append, String.utf8ByteSize_append]
      exact ⟨Nat.le_add_right _ _, Nat.le_add_right _ _⟩
  unique := fun _base _other => matchesBase_unique
  plainInRules := fun _strategy _params _condition compiled _base =>
    Condition.not_mem_of_compiled_base compiled

-- The part answers to two bases, of which rules can only ask for the shorter one.
example :
    Name.base? "fuel_tank_12" = some "fuel_tank" ∧ Name.matchesBase "fuel_tank_12" "fuel" = true ∧
      Name.base? "fuel_tank_" = none ∧ Name.matchesBase "fuel_tank_" "fuel" = true := by
  decide

end Scrutineer
