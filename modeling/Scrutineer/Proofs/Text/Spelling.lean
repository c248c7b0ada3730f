import Mathlib.Data.List.Forall2
import Scrutineer.Proofs.Craft.Name
import Scrutineer.Proofs.Text.Trim

/-! A text may get blanks around it, and its letters may change case. Blanks at the
ends are lost on every way on which rules read texts: in trimming, in names and in
lists of names. The case of letters is lost in the keys of tags, and blanks are blanks
in any case. -/

namespace Scrutineer
namespace Text

def Padded (text padded : String) : Prop :=
  ∃ before after : List Char,
    (∀ character ∈ before, isBlank character = true) ∧
      (∀ character ∈ after, isBlank character = true) ∧
        padded.toList = before ++ text.toList ++ after

def SameLetter (character other : Char) : Prop :=
  other = character ∨ other = character.toLower ∨ other = character.toUpper

instance (character other : Char) : Decidable (SameLetter character other) :=
  inferInstanceAs (Decidable (_ ∨ _))

def Recased (text recased : String) : Prop :=
  List.Forall₂ SameLetter text.toList recased.toList

instance (text recased : String) : Decidable (Recased text recased) :=
  inferInstanceAs (Decidable (List.Forall₂ SameLetter _ _))

/-! ### Letter case -/

theorem toNat_toLower (character : Char) :
    65 ≤ character.toNat ∧ character.toNat ≤ 90 ∧
        character.toLower.toNat = character.toNat + 32 ∨
      ¬ (65 ≤ character.toNat ∧ character.toNat ≤ 90) ∧
        character.toLower.toNat = character.toNat := by
  have isUpper : character.val ≥ 'A'.val ∧ character.val ≤ 'Z'.val ↔
      65 ≤ character.toNat ∧ character.toNat ≤ 90 := by
    simp only [ge_iff_le, UInt32.le_iff_toNat_le]
    exact Iff.rfl
  unfold Char.toLower
  by_cases letter : 65 ≤ character.toNat ∧ character.toNat ≤ 90
  · rw [dif_pos (isUpper.mpr letter)]
    refine .inl ⟨letter.1, letter.2, ?_⟩
    have small : character.toNat + 32 < 2 ^ 32 := by omega
    exact (UInt32.toNat_add character.val 32).trans (Nat.mod_eq_of_lt small)
  · rw [dif_neg fun both => letter (isUpper.mp both)]
    exact .inr ⟨letter, rfl⟩

theorem toNat_toUpper (character : Char) :
    97 ≤ character.toNat ∧ character.toNat ≤ 122 ∧
        character.toUpper.toNat + 32 = character.toNat ∨
      ¬ (97 ≤ character.toNat ∧ character.toNat ≤ 122) ∧
        character.toUpper.toNat = character.toNat := by
  have isLower : 'a'.val ≤ character.val ∧ character.val ≤ 'z'.val ↔
      97 ≤ character.toNat ∧ character.toNat ≤ 122 := by
    simp only [UInt32.le_iff_toNat_le]
    exact Iff.rfl
  unfold Char.toUpper
  by_cases letter : 97 ≤ character.toNat ∧ character.toNat ≤ 122
  · rw [dif_pos (isLower.mpr letter)]
    refine .inl ⟨letter.1, letter.2, ?_⟩
    -- The step is written as the word that wraps around to 32 less.
    have wrapped : (character.val + ('A'.val - 'a'.val)).toNat =
        (character.toNat + 4294967264) % 2 ^ 32 :=
      UInt32.toNat_add character.val ('A'.val - 'a'.val)
    change (character.val + ('A'.val - 'a'.val)).toNat + 32 = character.toNat
    omega
  · rw [dif_neg fun both => letter (isLower.mp both)]
    exact .inr ⟨letter, rfl⟩

theorem SameLetter.toLower_eq {character other : Char} (same : SameLetter character other) :
    other.toLower = character.toLower := by
  apply Char.toNat_inj.mp
  have own := toNat_toLower character
  have folded := toNat_toLower other
  rcases same with rfl | rfl | rfl
  · rfl
  · omega
  · have raised := toNat_toUpper character
    omega

theorem isBlank_toLower (character : Char) :
    isBlank character.toLower = isBlank character := by
  have code := toNat_toLower character
  rw [Bool.eq_iff_iff]
  unfold isBlank
  simp only [Bool.or_eq_true, Bool.and_eq_true, decide_eq_true_eq, beq_iff_eq]
  omega

/-! ### Trimming and the keys of tags -/

theorem trimmed_padded {before after : List Char} (characters : List Char)
    (blankBefore : ∀ character ∈ before, isBlank character = true)
    (blankAfter : ∀ character ∈ after, isBlank character = true) :
    trimmed (before ++ characters ++ after) = trimmed characters := by
  unfold trimmed
  rw [List.append_assoc, List.dropWhile_append_of_pos blankBefore, List.dropWhile_append]
  cases left : characters.dropWhile isBlank with
  | nil =>
      have gone : after.dropWhile isBlank = [] := List.dropWhile_eq_nil_iff.mpr blankAfter
      rw [gone]
      rfl
  | cons first rest =>
      have blankReversed : ∀ character ∈ after.reverse, isBlank character = true :=
        fun character member => blankAfter character (List.mem_reverse.mp member)
      change ((first :: rest ++ after).reverse.dropWhile isBlank).reverse = _
      rw [List.reverse_append, List.dropWhile_append_of_pos blankReversed]

theorem trimmed_map_toLower (characters : List Char) :
    trimmed (characters.map Char.toLower) = (trimmed characters).map Char.toLower := by
  have same : isBlank ∘ Char.toLower = isBlank := funext isBlank_toLower
  simp only [trimmed, List.dropWhile_map, ← List.map_reverse, same]

theorem toList_tagKey (text : String) :
    (tagKey text).toList = trimmed (text.toList.map Char.toLower) := by
  unfold tagKey foldCase trim
  rw [String.toList_ofList, String.toList_ofList, trimmed_map_toLower]

theorem Padded.trim_eq {text padded : String} (pads : Padded text padded) :
    trim padded = trim text := by
  obtain ⟨before, after, blankBefore, blankAfter, whole⟩ := pads
  unfold trim
  rw [whole, trimmed_padded text.toList blankBefore blankAfter]

theorem Padded.tagKey_eq {text padded : String} (pads : Padded text padded) :
    tagKey padded = tagKey text := by
  unfold tagKey
  rw [pads.trim_eq]

theorem Recased.tagKey_eq {text recased : String} (recases : Recased text recased) :
    tagKey recased = tagKey text := by
  have folded : List.Forall₂ (fun character other => character.toLower = other.toLower)
      text.toList recased.toList :=
    recases.imp fun _character _other same => same.toLower_eq.symm
  have same : text.toList.map Char.toLower = recased.toList.map Char.toLower := by
    rw [← List.forall₂_eq_eq_eq, List.forall₂_map_left_iff, List.forall₂_map_right_iff]
    exact folded
  rw [← String.toList_inj, toList_tagKey, toList_tagKey, same]

end Text

/-! ### Names and lists of names -/

namespace Name

/-- Filtering takes padding away when it keeps no blanks. -/
private theorem filter_padded {keeps : Char → Bool} {text padded : String}
    (blankless : ∀ character, keeps character = true → Text.isBlank character = false)
    (pads : Text.Padded text padded) : padded.toList.filter keeps = text.toList.filter keeps := by
  obtain ⟨before, after, blankBefore, blankAfter, whole⟩ := pads
  have gone {blanks : List Char} (blank : ∀ character ∈ blanks, Text.isBlank character = true) :
      blanks.filter keeps = [] := by
    rw [List.filter_eq_nil_iff]
    intro character member kept
    have impossible := blankless character kept
    rw [blank character member] at impossible
    cases impossible
  rw [whole, List.filter_append, List.filter_append, gone blankBefore, gone blankAfter,
    List.nil_append, List.append_nil]

theorem sanitize_eq_of_padded {text padded : String} (pads : Text.Padded text padded) :
    sanitize padded = sanitize text := by
  unfold sanitize
  rw [filter_padded (fun _character kept => isBlank_of_isKept kept) pads]

private def isListed (character : Char) : Bool :=
  isKept character || character == ','

private theorem map_modifyHead_cons (first : Char) (items : List (List Char))
    (keeps : Char → Bool) :
    (items.modifyHead (List.cons first)).map (List.filter keeps) =
      if keeps first then (items.map (List.filter keeps)).modifyHead (List.cons first)
      else items.map (List.filter keeps) := by
  cases items with
  | nil => simp
  | cons item others =>
      by_cases kept : keeps first = true
      · simp [kept]
      · simp [kept]

/-- Cleaning the items of a list is the same as cleaning the list of all but its
commas. -/
private theorem map_filter_splitOn (characters : List Char) :
    (characters.splitOn ',').map (List.filter isKept) =
      (characters.filter isListed).splitOn ',' := by
  induction characters with
  | nil => rfl
  | cons first rest ih =>
      rw [List.splitOn_cons_eq_if_modifyHead]
      by_cases comma : first = ','
      · subst comma
        rw [List.filter_cons_of_pos (by decide), List.splitOn_cons_eq_if_modifyHead]
        change [] :: (rest.splitOn ',').map (List.filter isKept) = [] :: _
        rw [ih]
      · have different : (first == ',') = false := beq_eq_false_iff_ne.mpr comma
        have listed : isListed first = isKept first := by
          rw [isListed, different, Bool.or_false]
        rw [different, if_neg Bool.false_ne_true, map_modifyHead_cons, ih]
        cases kept : isKept first with
        | true =>
            rw [List.filter_cons_of_pos (listed.trans kept), List.splitOn_cons_eq_if_modifyHead,
              different]
            rfl
        | false =>
            rw [List.filter_cons_of_neg (by rw [listed, kept]; decide)]
            rfl

theorem splitList_eq_of_padded {text padded : String} (pads : Text.Padded text padded) :
    splitList padded = splitList text := by
  have listedBlankless (character : Char) (listed : isListed character = true) :
      Text.isBlank character = false := by
    rcases (Bool.or_eq_true _ _).mp listed with kept | comma
    · exact isBlank_of_isKept kept
    · rw [eq_of_beq comma]
      decide
  have cleaned (list : String) :
      ((list.toList.splitOn ',').map fun item => sanitize (String.ofList item)) =
        ((list.toList.filter isListed).splitOn ',').map String.ofList := by
    rw [← map_filter_splitOn, List.map_map]
    apply List.map_congr_left
    intro item _member
    change String.ofList ((String.ofList item).toList.filter isKept) = _
    rw [String.toList_ofList]
    rfl
  rw [splitList_eq_sanitized, splitList_eq_sanitized, cleaned, cleaned,
    filter_padded listedBlankless pads]

end Name
end Scrutineer
