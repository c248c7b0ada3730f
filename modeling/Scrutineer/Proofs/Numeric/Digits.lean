import Mathlib.Algebra.Group.Nat.Defs
import Scrutineer.Json.Number

/-! Runs of decimal digits and the numbers that they denote. The digits of a number
read back as that number, with or without a sign, and start with a zero only when it
is the whole number. -/

namespace Scrutineer

theorem Char.isDigit_iff_toNat (character : Char) :
    character.isDigit = true ↔ 48 ≤ character.toNat ∧ character.toNat ≤ 57 := by
  unfold Char.isDigit
  rw [Bool.and_eq_true, decide_eq_true_iff, decide_eq_true_iff, ge_iff_le, UInt32.le_iff_toNat_le,
    UInt32.le_iff_toNat_le]
  exact Iff.rfl

namespace Count

def AreDigits (characters : List Char) : Prop :=
  ∀ character ∈ characters, character.isDigit = true

theorem areDigits_toDigits (value : Nat) : AreDigits (Nat.toDigits 10 value) :=
  fun _character member => Nat.isDigit_of_mem_toDigits (by decide) (by decide) member

theorem areDigits_zeros (count : Nat) : AreDigits (List.replicate count '0') := by
  intro character member
  rw [List.eq_of_mem_replicate member]
  decide

theorem AreDigits.append {front back : List Char} (first : AreDigits front)
    (second : AreDigits back) : AreDigits (front ++ back) := by
  intro character member
  rcases List.mem_append.mp member with early | late
  · exact first character early
  · exact second character late

theorem digitsValue?_of_digits {characters : List Char} (nonempty : characters ≠ [])
    (digits : AreDigits characters) :
    digitsValue? characters = some (Nat.ofDigitChars 10 characters 0) := by
  have empty : characters.isEmpty = false := List.isEmpty_eq_false_iff.mpr nonempty
  have all : characters.all Char.isDigit = true := List.all_eq_true.mpr digits
  have step : (fun value (digit : Char) => value * 10 + (digit.toNat - 48)) =
      fun value digit => 10 * value + (digit.toNat - '0'.toNat) := by
    funext value digit
    rw [Nat.mul_comm]
    rfl
  unfold digitsValue?
  rw [empty, all, Nat.ofDigitChars_eq_foldl, step]
  rfl

theorem digitsValue?_toDigits (value : Nat) :
    digitsValue? (Nat.toDigits 10 value) = some value := by
  rw [digitsValue?_of_digits Nat.toDigits_ne_nil (areDigits_toDigits value),
    Nat.ofDigitChars_ten_toDigits]

theorem not_isDigit_of_sign {sign : Char} (marks : sign = '-' ∨ sign = '+') :
    ¬sign.isDigit = true := by
  rcases marks with rfl | rfl <;> decide

theorem wholeNumber?_of_digits {characters : List Char} (digits : AreDigits characters)
    {value : Nat} (known : digitsValue? characters = some value) :
    wholeNumber? characters = some (value : Int) := by
  unfold wholeNumber?
  split
  · exact absurd (digits '-' List.mem_cons_self) (not_isDigit_of_sign (.inl rfl))
  · exact absurd (digits '+' List.mem_cons_self) (not_isDigit_of_sign (.inr rfl))
  · rw [known]
    rfl

theorem wholeNumber?_minus {digits : List Char} {value : Nat}
    (known : digitsValue? digits = some value) :
    wholeNumber? ('-' :: digits) = some (-(value : Int)) := by
  rw [wholeNumber?, known]
  rfl

theorem wholeNumber?_plus {digits : List Char} {value : Nat}
    (known : digitsValue? digits = some value) :
    wholeNumber? ('+' :: digits) = some (value : Int) := by
  rw [wholeNumber?, known]
  rfl

theorem wholeNumber?_wholeText (value : Int) :
    wholeNumber? (Number.wholeText value) = some value := by
  have magnitude := digitsValue?_toDigits value.natAbs
  unfold Number.wholeText
  by_cases negative : value < 0
  · rw [if_pos negative, List.singleton_append, wholeNumber?_minus magnitude,
      Int.ofNat_natAbs_of_nonpos (Int.le_of_lt negative), Int.neg_neg]
  · rw [if_neg negative, List.nil_append,
      wholeNumber?_of_digits (areDigits_toDigits _) magnitude,
      Int.natAbs_of_nonneg (Int.not_lt.mp negative)]

/-- The first digit of a number is a zero only when it is the whole number. -/
theorem head?_toDigits_ne_zero {value : Nat} (positive : 0 < value) :
    (Nat.toDigits 10 value).head? ≠ some '0' := by
  induction value using Nat.strongRecOn with
  | ind value ih =>
      rw [Nat.toDigits_eq_if (by decide)]
      by_cases small : value < 10
      · rw [if_pos small, List.head?_cons]
        intro zero
        have none := Nat.digitChar_eq_zero.mp (Option.some.inj zero)
        omega
      · have front : (Nat.toDigits 10 (value / 10)).head?.isSome = true :=
          List.isSome_head?.mpr Nat.toDigits_ne_nil
        rw [if_neg small, List.head?_append, Option.or_of_isSome front]
        exact ih (value / 10) (by omega) (by omega)

end Count
end Scrutineer
