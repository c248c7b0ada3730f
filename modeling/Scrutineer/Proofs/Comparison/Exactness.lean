import Scrutineer.Comparison.Comparator
import Scrutineer.Proofs.Numeric.Digits
import Scrutineer.Proofs.Numeric.Whole
import Scrutineer.Proofs.Rule.Slot

/-! A count that is written out in digits is compared as it is. A count that is given
as a number goes through a double first, which keeps it when it fits the digits of a
double, and also at the upper end of the range, where the rounded number is cut back
to that end. -/

namespace Scrutineer

namespace Count

theorem clamp_toInt (value : Int64) : clamp value.toInt = value := by
  have lower : least ≤ value.toInt := value.minValue_le_toInt
  have upper : value.toInt ≤ greatest := value.toInt_le
  rw [clamp, Int.min_eq_left upper, Int.max_eq_right lower, Int64.ofInt_toInt]

theorem clamp_of_lt {value : Int} (low : value < least) : clamp value = Int64.minValue := by
  have lower : min value greatest ≤ least :=
    Int.le_trans (Int.min_le_left value greatest) (Int.le_of_lt low)
  rw [clamp, Int.max_eq_left lower]
  exact Int64.ofInt_toInt Int64.minValue

theorem clamp_of_gt {value : Int} (high : greatest < value) : clamp value = Int64.maxValue := by
  have ends : least ≤ greatest := by decide
  rw [clamp, Int.min_eq_right (Int.le_of_lt high), Int.max_eq_right ends]
  exact Int64.ofInt_toInt Int64.maxValue

theorem toInt_clamp {value : Int} (lower : least ≤ value) (upper : value ≤ greatest) :
    (clamp value).toInt = value := by
  have below : value < 2 ^ 63 := Int.lt_of_le_of_lt upper (by decide)
  rw [clamp, Int.min_eq_left upper, Int.max_eq_right lower]
  exact Int64.toInt_ofInt_of_le lower below

theorem natAbs_toInt_lt (value : Int64) : value.toInt.natAbs < UInt64.size := by
  have lower : -9223372036854775808 ≤ value.toInt := value.minValue_le_toInt
  have upper : value.toInt ≤ 9223372036854775807 := value.toInt_le
  change value.toInt.natAbs < 18446744073709551616
  omega

theorem ofDouble_ofInt_eq_iff (value : Int64) :
    ofDouble (.ofInt value.toInt) = value ↔
      Double.FitsDigits value.toInt.natAbs ∨ value = Int64.maxValue := by
  have kept := Double.wholePart_ofInt_eq_iff (natAbs_toInt_lt value)
  unfold ofDouble
  constructor
  · intro same
    -- A count that is cut back is an end of the range, and the lower end fits.
    by_cases low : (Double.ofInt value.toInt).wholePart < least
    · rw [clamp_of_lt low] at same
      subst same
      exact .inl (by decide)
    · by_cases high : greatest < (Double.ofInt value.toInt).wholePart
      · rw [clamp_of_gt high] at same
        exact .inr same.symm
      · have whole := toInt_clamp (Int.not_lt.mp low) (Int.not_lt.mp high)
        rw [same] at whole
        exact .inl (kept.mp whole.symm)
  · intro fits
    rcases fits with digits | upper
    · rw [kept.mpr digits, clamp_toInt]
    · subst upper
      decide +kernel

theorem isBlank_of_wholeText {value : Int} {character : Char}
    (member : character ∈ Number.wholeText value) : Text.isBlank character = false := by
  have written : character = '-' ∨ character.isDigit = true := by
    rcases List.mem_append.mp member with sign | digit
    · split at sign
      · exact .inl (List.mem_singleton.mp sign)
      · cases sign
    · exact .inr (areDigits_toDigits value.natAbs character digit)
  rcases written with rfl | digit
  · decide
  · obtain ⟨lower, upper⟩ := (Char.isDigit_iff_toNat character).mp digit
    unfold Text.isBlank
    simp only [Bool.or_eq_false_iff, Bool.and_eq_false_iff, decide_eq_false_iff_not,
      beq_eq_false_iff_ne]
    omega

end Count

def Operator.Relates (operator : Operator) (left right : Int) : Prop :=
  match operator with
  | .less => left < right
  | .lessOrEqual => left ≤ right
  | .greater => right < left
  | .greaterOrEqual => right ≤ left
  | .equal => left = right
  | .notEqual => left ≠ right

theorem Operator.holdsOfInts_iff (operator : Operator) (left right : Int) :
    operator.holdsOfInts left right = true ↔ operator.Relates left right := by
  unfold holdsOfInts holds Relates
  rcases Int.lt_trichotomy left right with below | same | above
  · have order : compare left right = .lt := Int.compare_eq_lt.mpr below
    rw [order]
    cases operator <;> simp <;> omega
  · have order : compare left right = .eq := Int.compare_eq_eq.mpr same
    rw [order]
    cases operator <;> simp <;> omega
  · have order : compare left right = .gt := Int.compare_eq_gt.mpr above
    rw [order]
    cases operator <;> simp <;> omega

inductive Writing where
  | digits
  | number

namespace Writing

def json : Writing → Int64 → Json
  | .digits, value => .text (String.ofList (Number.wholeText value.toInt))
  | .number, value => .number (.ofCount value)

def scalar : Writing → Int64 → Scalar
  | .digits, value => .text (String.ofList (Number.wholeText value.toInt))
  | .number, value => .ofCount value

/-- The count that is compared in place of a count. -/
def compared : Writing → Int64 → Int64
  | .digits, value => value
  | .number, value => Count.ofDouble (.ofInt value.toInt)

/-- Digits are always exact; a number is when it fits a double, or is the
greatest count. -/
def IsExact : Writing → Int64 → Prop
  | .digits, _ => True
  | .number, value => Double.FitsDigits value.toInt.natAbs ∨ value = Int64.maxValue

theorem compared_eq_iff (writing : Writing) (value : Int64) :
    writing.compared value = value ↔ writing.IsExact value := by
  cases writing with
  | digits => exact iff_of_true rfl trivial
  | number => exact Count.ofDouble_ofInt_eq_iff value

theorem trim_digits (value : Int) :
    Text.trim (String.ofList (Number.wholeText value)) =
      String.ofList (Number.wholeText value) := by
  rw [Text.trim, String.toList_ofList,
    Text.trimmed_of_no_blank fun _character member => Count.isBlank_of_wholeText member]

theorem asCount?_scalar (writing : Writing) (value : Int64) :
    (writing.scalar value).asCount? = some (writing.compared value) := by
  cases writing with
  | digits =>
      have known : Count.ofText? (String.ofList (Number.wholeText value.toInt)) = some value := by
        rw [Count.ofText?, String.toList_ofList, Count.wholeNumber?_wholeText, Option.bind_some,
          Count.ofInt?_toInt]
      unfold scalar Scalar.asCount?
      dsimp only
      rw [trim_digits, known]
      rfl
  | number =>
      have finite := Double.isFinite_ofInt value.toInt (Count.natAbs_toInt_lt value)
      exact if_pos finite

theorem reference_json (writing : Writing) (value : Int64) :
    Slot.reference .count (writing.json value) = .ok (writing.scalar value) := by
  have usable : Slot.isUsable .count (writing.scalar value) = true := by
    unfold Slot.isUsable Form.of?
    rw [asCount?_scalar]
    rfl
  cases writing with
  | digits =>
      unfold json Slot.reference
      dsimp only
      rw [trim_digits]
      exact if_pos usable
  | number => exact if_pos usable

theorem compare_scalar (operator : Operator) (left right : Writing) (actual reference : Int64) :
    Comparator.compare { operator, form := .count } (left.scalar actual)
        (right.scalar reference) = true ↔
      operator.Relates (left.compared actual).toInt (right.compared reference).toInt := by
  unfold Comparator.compare Form.of?
  dsimp only
  rw [asCount?_scalar, asCount?_scalar]
  exact operator.holdsOfInts_iff _ _

end Writing

/-- Counts are compared as whole numbers wherever both sides are exact, and a
side is exact just when it compares so with all that are. A count as JSON is
taken over as the same property value. -/
theorem Comparator.compare_counts (left : Writing) (actual : Int64) :
    Slot.reference .count (left.json actual) = .ok (left.scalar actual) ∧
      (left.IsExact actual ↔
        ∀ (operator : Operator) (right : Writing) (reference : Int64), right.IsExact reference →
          (Comparator.compare { operator, form := .count } (left.scalar actual)
              (right.scalar reference) = true ↔
            operator.Relates actual.toInt reference.toInt) ∧
          (Comparator.compare { operator, form := .count } (right.scalar reference)
              (left.scalar actual) = true ↔
            operator.Relates reference.toInt actual.toInt)) := by
  refine ⟨left.reference_json actual, ?_, ?_⟩
  · intro exactLeft operator right reference exactRight
    rw [Writing.compare_scalar, Writing.compare_scalar, (left.compared_eq_iff actual).mpr exactLeft,
      (right.compared_eq_iff reference).mpr exactRight]
    exact ⟨Iff.rfl, Iff.rfl⟩
  · intro relates
    have equal := ((relates .equal .digits actual trivial).1).mpr rfl
    rw [Writing.compare_scalar] at equal
    exact (left.compared_eq_iff actual).mp (Int64.toInt_inj.mp equal)

example :
    Comparator.compare { operator := .equal, form := .count } (Scalar.ofCount 9007199254740993)
      (.text "9007199254740993") = false := by
  decide +kernel

end Scrutineer
