import Scrutineer.Proofs.Craft.Presence

/-! A part map in thirty-two bits is exact as long as the parts are no more than these
can count. Each base name of a part then has the number of parts that have it, no
other name has an entry, and all counts together are the parts that have a base name
at all. -/

namespace Scrutineer

namespace Entries

def sumOfCounts (entries : List (String × UInt32)) : Nat :=
  entries.foldr (fun entry sum => entry.2.toNat + sum) 0

theorem sumOfCounts_cons (key : String) (count : UInt32) (rest : List (String × UInt32)) :
    sumOfCounts ((key, count) :: rest) = count.toNat + sumOfCounts rest :=
  rfl

theorem sumOfCounts_insert (key : String) (count : UInt32) {entries : List (String × UInt32)}
    (increasing : Increasing entries) :
    sumOfCounts (insert key count entries) + ((find? key entries).getD 0).toNat =
      sumOfCounts entries + count.toNat := by
  induction entries with
  | nil => exact Nat.add_comm _ _
  | cons head rest ih =>
      obtain ⟨other, held⟩ := head
      have parts := List.pairwise_cons.mp increasing
      rw [insert]
      split
      · rename_i less
        -- Keys increase, so a key before the first one is nowhere in the list.
        have absent : find? key ((other, held) :: rest) = none := by
          apply find?_of_less
          intro entry member
          rcases List.mem_cons.mp member with here | there
          · rw [here]
            exact less
          · exact String.lt_trans less (parts.1 entry there)
        rw [absent, sumOfCounts_cons key count, Nat.add_comm count.toNat]
        rfl
      · split
        · rename_i same
          rw [find?_cons, if_pos same, sumOfCounts_cons, sumOfCounts_cons, Option.getD_some]
          omega
        · rename_i different
          have later := ih parts.2
          rw [find?_cons, if_neg different, sumOfCounts_cons, sumOfCounts_cons]
          omega

end Entries

namespace PartMap

def total (counts : PartMap) : Nat :=
  Entries.sumOfCounts counts.entries

theorem total_insert (counts : PartMap) (base : String) (count : UInt32) :
    total (counts.insert base count) + ((counts.find? base).getD 0).toNat =
      total counts + count.toNat :=
  Entries.sumOfCounts_insert base count counts.increasing

theorem count_le_total (counts : PartMap) (base : String) :
    ((counts.find? base).getD 0).toNat ≤ total counts := by
  have emptied := total_insert counts base 0
  have none : (0 : UInt32).toNat = 0 := rfl
  omega

theorem total_countOne {counts : PartMap} (room : total counts + 1 < UInt32.size) (base : String) :
    total (countOne counts base) = total counts + 1 := by
  have inserted := total_insert counts base ((counts.find? base).getD 0 + 1)
  have small := count_le_total counts base
  have next : ((counts.find? base).getD 0 + 1).toNat = ((counts.find? base).getD 0).toNat + 1 := by
    rw [UInt32.toNat_add]
    exact Nat.mod_eq_of_lt (Nat.lt_of_le_of_lt (Nat.add_le_add_right small 1) room)
  unfold countOne
  omega

private theorem total_foldl_countOne (bases : List String) (counts : PartMap)
    (room : total counts + bases.length < UInt32.size) :
    total (bases.foldl countOne counts) = total counts + bases.length := by
  induction bases generalizing counts with
  | nil => rfl
  | cons base rest ih =>
      rw [List.length_cons] at room
      have roomForOne : total counts + 1 < UInt32.size := by omega
      have counted := total_countOne roomForOne base
      rw [List.foldl_cons, ih (countOne counts base) (by omega), counted, List.length_cons]
      omega

def conventional (parts : List Part) : Nat :=
  parts.countP fun part => part.base?.isSome

theorem conventional_eq_length {parts : List Part}
    (all : ∀ part ∈ parts, part.base?.isSome = true) : conventional parts = parts.length :=
  List.countP_eq_length.mpr all

theorem total_ofParts {parts : List Part} (few : parts.length < UInt32.size) :
    total (ofParts parts) = conventional parts := by
  have named : (parts.filterMap Part.base?).length = conventional parts :=
    List.length_filterMap_eq_countP
  have atMost : conventional parts ≤ parts.length := List.countP_le_length
  have empty : total .empty = 0 := rfl
  rw [ofParts, total_foldl_countOne _ _ (by omega), empty, named, Nat.zero_add]

/-! ### Single counts -/

/-- The count of a base name as a number, when the part map has it. -/
def count? (counts : PartMap) (base : String) : Option Nat :=
  (counts.find? base).map UInt32.toNat

theorem occurrences_append (front back : List Part) (base : String) :
    occurrences (front ++ back) base = occurrences front base + occurrences back base :=
  List.countP_append

theorem count?_ofParts {parts : List Part} (few : parts.length < UInt32.size) (base : String) :
    (ofParts parts).count? base =
      if 0 < occurrences parts base then some (occurrences parts base) else none := by
  rw [count?, find?_ofParts]
  split
  · rw [Option.map_some, toNat_ofNat_occurrences few]
  · rfl

theorem find?_ofParts_eq_some_iff {parts : List Part} (few : parts.length < UInt32.size)
    (base : String) (count : UInt32) :
    (ofParts parts).find? base = some count ↔
      count.toNat = occurrences parts base ∧ 1 ≤ count.toNat := by
  have counted := toNat_ofNat_occurrences few base
  rw [find?_ofParts]
  constructor
  · intro found
    split at found
    · rename_i present
      cases found
      rw [counted]
      exact ⟨rfl, present⟩
    · cases found
  · intro given
    rcases given with ⟨same, present⟩
    rw [if_pos (same ▸ present), ← same, UInt32.ofNat_toNat]

theorem ofParts_eq_of_perm {parts others : List Part} (moved : parts.Perm others) :
    ofParts parts = ofParts others := by
  apply Dictionary.ext_find?
  intro base
  have counted : occurrences parts base = occurrences others base := moved.countP_eq _
  rw [find?_ofParts, find?_ofParts, counted]

private theorem merge_counts (front back : Nat) :
    (if 0 < front + back then some (front + back) else none) =
      Option.merge (· + ·) (if 0 < front then some front else none)
        (if 0 < back then some back else none) := by
  cases front with
  | zero => cases back <;> simp
  | succ front => cases back <;> simp

theorem count?_ofParts_append {front back : List Part}
    (few : (front ++ back).length < UInt32.size) (base : String) :
    (ofParts (front ++ back)).count? base =
      Option.merge (· + ·) ((ofParts front).count? base) ((ofParts back).count? base) := by
  have lengths : (front ++ back).length = front.length + back.length := List.length_append
  have fewFront : front.length < UInt32.size := by omega
  have fewBack : back.length < UInt32.size := by omega
  rw [count?_ofParts few, count?_ofParts fewFront, count?_ofParts fewBack, occurrences_append]
  exact merge_counts _ _

/-- The part map of fewer parts than thirty-two bits can count says of each base
name how many parts have it, and nothing of other names. Its counts add up to the
parts that have a base name. It does not depend on the order of the parts, the
counts of two lists add up to those of both, and it takes the place of any part
map that a craft had before. -/
theorem ofParts_counts_exactly {parts : List Part} (few : parts.length < UInt32.size) :
    (∀ base count, (ofParts parts).find? base = some count ↔
        count.toNat = occurrences parts base ∧ 1 ≤ count.toNat) ∧
      total (ofParts parts) = conventional parts ∧
      ((∀ part ∈ parts, part.base?.isSome = true) → total (ofParts parts) = parts.length) ∧
      (∀ others, parts.Perm others → ofParts others = ofParts parts) ∧
      (∀ front back, parts = front ++ back → ∀ base, (ofParts parts).count? base =
        Option.merge (· + ·) ((ofParts front).count? base) ((ofParts back).count? base)) ∧
      ∀ craft : Craft, (craft.withParts parts).partMap = ofParts parts := by
  have sum := total_ofParts few
  refine ⟨find?_ofParts_eq_some_iff few, sum, ?_, ?_, ?_, ?_⟩
  · intro all
    rw [sum, conventional_eq_length all]
  · intro others moved
    exact (ofParts_eq_of_perm moved).symm
  · intro front back split
    subst split
    exact count?_ofParts_append few
  · intro craft
    exact craft.countsItsParts_withParts parts

/-- Two tanks, an engine and a part without a base name. The tanks have two
underscores in their names, of which only the last one ends the base name. -/
private def tanksAndEngine : List Part :=
  (["fuel_tank_1", "engine_1", "pod", "fuel_tank_2"]).map fun name =>
    { name, modules := [], resources := [] }

theorem ofParts_counts_exactly_of_tanks :
    (ofParts tanksAndEngine).find? "fuel_tank" = some 2 ∧
      (ofParts tanksAndEngine).find? "fuel" = none ∧ total (ofParts tanksAndEngine) = 3 ∧
      ofParts tanksAndEngine.reverse = ofParts tanksAndEngine := by
  have few : tanksAndEngine.length < UInt32.size := by decide
  obtain ⟨entries, sum, _all, reordered, _split, _craft⟩ := ofParts_counts_exactly few
  refine ⟨(entries "fuel_tank" 2).mpr (by decide), ?_, sum, ?_⟩
  · apply Option.eq_none_iff_forall_ne_some.mpr
    intro count found
    obtain ⟨same, present⟩ := (entries "fuel" count).mp found
    rw [same] at present
    exact absurd present (by decide)
  · exact reordered _ tanksAndEngine.reverse_perm.symm

end PartMap
end Scrutineer
