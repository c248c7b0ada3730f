import Scrutineer.Craft.Snapshot

/-! The part map of a craft's own parts. It has an entry for each base name of a part,
and the entry counts the parts of that base name in thirty-two bits. -/

namespace Scrutineer
namespace PartMap

def occurrences (parts : List Part) (base : String) : Nat :=
  parts.countP fun part => part.base? == some base

theorem toNat_ofNat_occurrences {parts : List Part} (few : parts.length < UInt32.size)
    (base : String) : (UInt32.ofNat (occurrences parts base)).toNat = occurrences parts base :=
  UInt32.toNat_ofNat_of_lt (Nat.lt_of_le_of_lt List.countP_le_length few)

theorem find?_countOne (counts : PartMap) (counted base : String) :
    (countOne counts counted).find? base =
      if base = counted then some ((counts.find? counted).getD 0 + 1) else counts.find? base :=
  Dictionary.find?_insert counts counted base _

/-- Counting names one by one adds the number of times that each occurs. -/
private theorem find?_foldl_countOne (bases : List String) (counts : PartMap) (base : String) :
    (bases.foldl countOne counts).find? base =
      if base ∈ bases then some ((counts.find? base).getD 0 + UInt32.ofNat (bases.count base))
      else counts.find? base := by
  -- A name that comes again is counted on top of what the first occurrence left.
  induction bases generalizing counts with
  | nil => rfl
  | cons counted rest ih =>
      rw [List.foldl_cons, ih, find?_countOne]
      by_cases same : base = counted
      · subst same
        rw [if_pos rfl, if_pos List.mem_cons_self, List.count_cons_self, Option.getD_some,
          UInt32.ofNat_add]
        by_cases again : base ∈ rest
        · rw [if_pos again, UInt32.add_assoc, UInt32.add_comm 1]
          rfl
        · rw [if_neg again, List.count_eq_zero.mpr again]
          rfl
      · have elsewhere : base ∈ counted :: rest ↔ base ∈ rest := by
          rw [List.mem_cons, or_iff_right same]
        rw [if_neg same, List.count_cons_of_ne (Ne.symm same)]
        simp only [elsewhere]

theorem find?_ofParts (parts : List Part) (base : String) :
    (ofParts parts).find? base =
      if 0 < occurrences parts base then some (UInt32.ofNat (occurrences parts base))
      else none := by
  have counted : (parts.filterMap Part.base?).count base = occurrences parts base := by
    rw [List.count_filterMap]
    rfl
  have known : base ∈ parts.filterMap Part.base? ↔ 0 < occurrences parts base := by
    rw [← counted, List.count_pos_iff]
  rw [ofParts, find?_foldl_countOne, counted]
  change (if _ then some (0 + UInt32.ofNat _) else none) = _
  simp only [known, UInt32.zero_add]

theorem occurrences_pos_iff (parts : List Part) (base : String) :
    0 < occurrences parts base ↔ ∃ part ∈ parts, part.base? = some base := by
  rw [occurrences, List.countP_pos_iff]
  simp only [beq_iff_eq]

theorem contains_ofParts_iff (parts : List Part) (base : String) :
    (ofParts parts).contains base = true ↔ ∃ part ∈ parts, part.base? = some base := by
  rw [Dictionary.contains, find?_ofParts, ← occurrences_pos_iff]
  split
  · rename_i some
    simp [some]
  · rename_i none
    simp [none]

theorem getD_find?_ofParts (parts : List Part) (base : String) :
    ((ofParts parts).find? base).getD 0 = UInt32.ofNat (occurrences parts base) := by
  rw [find?_ofParts]
  split
  · rfl
  · rename_i none
    rw [Nat.eq_zero_of_not_pos none]
    rfl

end PartMap
end Scrutineer
