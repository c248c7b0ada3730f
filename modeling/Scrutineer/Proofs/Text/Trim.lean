import Mathlib.Data.List.DropRight
import Scrutineer.Text.Blank

/-! Trimming takes away all it can at once: what is trimmed has no blank at either
end, so that trimming it again changes nothing. A text without blanks is left as it
is. -/

namespace Scrutineer
namespace Text

private theorem dropWhile_rdropWhile_dropWhile (isDropped : Char → Bool) (characters : List Char) :
    ((characters.dropWhile isDropped).rdropWhile isDropped).dropWhile isDropped =
      (characters.dropWhile isDropped).rdropWhile isDropped := by
  apply List.dropWhile_eq_self_iff.mpr
  intro nonempty dropped
  have prefixOf := List.rdropWhile_prefix isDropped (characters.dropWhile isDropped)
  have frontNonempty : 0 < (characters.dropWhile isDropped).length :=
    Nat.lt_of_lt_of_le nonempty prefixOf.length_le
  rw [prefixOf.getElem nonempty] at dropped
  exact List.dropWhile_get_zero_not isDropped characters frontNonempty dropped

theorem trimmed_trimmed (characters : List Char) :
    trimmed (trimmed characters) = trimmed characters := by
  change (((characters.dropWhile isBlank).rdropWhile isBlank).dropWhile isBlank).rdropWhile
    isBlank = (characters.dropWhile isBlank).rdropWhile isBlank
  rw [dropWhile_rdropWhile_dropWhile, List.rdropWhile_idempotent]

theorem trim_trim (text : String) : trim (trim text) = trim text := by
  unfold trim
  rw [String.toList_ofList, trimmed_trimmed]

private theorem dropWhile_of_no_blank {characters : List Char}
    (clear : ∀ character ∈ characters, isBlank character = false) :
    characters.dropWhile isBlank = characters := by
  cases characters with
  | nil => rfl
  | cons character rest =>
      apply List.dropWhile_cons_of_neg
      rw [clear character List.mem_cons_self]
      decide

theorem trimmed_of_no_blank {characters : List Char}
    (clear : ∀ character ∈ characters, isBlank character = false) :
    trimmed characters = characters := by
  have reversed : ∀ character ∈ characters.reverse, isBlank character = false :=
    fun character member => clear character (List.mem_reverse.mp member)
  rw [trimmed, dropWhile_of_no_blank clear, dropWhile_of_no_blank reversed, List.reverse_reverse]

end Text
end Scrutineer
