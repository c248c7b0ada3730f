import Mathlib.Algebra.Field.Rat
import Mathlib.Data.Rat.Cast.Order
import Mathlib.Data.Rat.Floor
import Scrutineer.Json.Number
import Scrutineer.Proofs.Numeric.Whole

/-! A finite double is a rational number: its magnitude in units of the smallest
positive double, with its sign. It is a whole number when these units are, and its
whole part is then all of it. Of any other the whole part is what is left when the
fraction is cut off. -/

namespace Scrutineer
namespace Double

def toRat : Double → ℚ
  | .nan => 0
  | .signed negative rank _ =>
      if negative then -((units rank : ℚ) / unitsPerOne) else (units rank : ℚ) / unitsPerOne

theorem unitsPerOne_ne_zero : (unitsPerOne : ℚ) ≠ 0 :=
  Nat.cast_ne_zero.mpr (Nat.ne_of_gt unitsPerOne_pos)

theorem units_div_eq_iff (rank : Nat) (whole : Int) :
    (units rank : ℚ) / unitsPerOne = whole ↔
      units rank % unitsPerOne = 0 ∧ ((units rank / unitsPerOne : Nat) : Int) = whole := by
  rw [div_eq_iff unitsPerOne_ne_zero]
  constructor
  · intro same
    have product : (units rank : Int) = whole * unitsPerOne := by exact_mod_cast same
    have divides : (unitsPerOne : Int) ∣ units rank := ⟨whole, product.trans (Int.mul_comm _ _)⟩
    refine ⟨Nat.mod_eq_zero_of_dvd (Int.natCast_dvd_natCast.mp divides), ?_⟩
    rw [Int.natCast_ediv, product]
    exact Int.mul_ediv_cancel whole (Int.natCast_ne_zero.mpr (Nat.ne_of_gt unitsPerOne_pos))
  · intro given
    rcases given with ⟨nothingLeft, rfl⟩
    have product : units rank = units rank / unitsPerOne * unitsPerOne :=
      (Nat.div_mul_cancel (Nat.dvd_of_mod_eq_zero nothingLeft)).symm
    exact_mod_cast product

/-- A finite double has a whole number for its value when it is whole, and it is
the whole part. -/
theorem toRat_eq_intCast_iff {number : Double} (finite : number.isFinite = true) (whole : Int) :
    number.toRat = whole ↔ number.isWhole = true ∧ number.wholePart = whole := by
  cases number with
  | nan => cases finite
  | signed negative rank bounded =>
      have within : rank < infinityRank := of_decide_eq_true finite
      have isWhole : (signed negative rank bounded).isWhole = true ↔
          units rank % unitsPerOne = 0 := by
        change (decide (rank < infinityRank) && units rank % unitsPerOne == 0) = true ↔ _
        rw [decide_eq_true within, Bool.true_and, beq_iff_eq]
      rw [isWhole]
      cases negative with
      | false => exact units_div_eq_iff rank whole
      | true =>
          have opposite := units_div_eq_iff rank (-whole)
          rw [Int.cast_neg, ← neg_eq_iff_eq_neg, ← neg_eq_iff_eq_neg] at opposite
          exact opposite

/-! ### Cutting off the fraction -/

def cutTowardsZero (exact : ℚ) : Int :=
  if 0 ≤ exact then ⌊exact⌋ else ⌈exact⌉

theorem cutTowardsZero_neg {exact : ℚ} (nonnegative : 0 ≤ exact) :
    cutTowardsZero (-exact) = -⌊exact⌋ := by
  unfold cutTowardsZero
  by_cases zero : exact = 0
  · rw [zero, neg_zero, if_pos le_rfl, Int.floor_zero, neg_zero]
  · have negative : ¬0 ≤ -exact := by
      rw [not_le, neg_lt_zero]
      exact lt_of_le_of_ne nonnegative (Ne.symm zero)
    rw [if_neg negative, Int.ceil_neg]

theorem cutTowardsZero_within {exact : ℚ} {bound : Int} (small : |exact| < bound) :
    -bound < cutTowardsZero exact ∧ cutTowardsZero exact < bound := by
  obtain ⟨above, below⟩ := abs_lt.mp small
  have positive : 0 < bound := Int.cast_pos.mp (lt_of_le_of_lt (abs_nonneg exact) small)
  unfold cutTowardsZero
  by_cases nonnegative : 0 ≤ exact
  · have least := Int.floor_nonneg.mpr nonnegative
    rw [if_pos nonnegative]
    exact ⟨by omega, Int.floor_lt.mpr below⟩
  · have greatest : ⌈exact⌉ ≤ 0 := Int.ceil_nonpos.mpr (le_of_not_ge nonnegative)
    rw [← Int.cast_neg] at above
    rw [if_neg nonnegative]
    exact ⟨Int.lt_ceil.mpr above, by omega⟩

theorem wholePart_eq_cutTowardsZero (number : Double) :
    number.wholePart = cutTowardsZero number.toRat := by
  cases number with
  | nan => exact (if_pos le_rfl).symm
  | signed negative rank bounded =>
      have quotient := Rat.floor_natCast_div_natCast (units rank) unitsPerOne
      have nonnegative : (0 : ℚ) ≤ (units rank : ℚ) / unitsPerOne :=
        div_nonneg (Nat.cast_nonneg _) (Nat.cast_nonneg _)
      cases negative with
      | false => exact quotient.symm.trans (if_pos nonnegative).symm
      | true => exact (congrArg Neg.neg quotient.symm).trans (cutTowardsZero_neg nonnegative).symm

theorem toRat_ofRank (negative : Bool) {rank : Nat} (finite : rank < infinityRank) :
    (ofRank negative rank).toRat =
      if negative then -((units rank : ℚ) / unitsPerOne) else (units rank : ℚ) / unitsPerOne := by
  unfold ofRank toRat
  dsimp only
  rw [Nat.min_eq_left (Nat.le_of_lt finite)]

theorem abs_toRat_ofRank_lt_iff (negative : Bool) {rank : Nat} (finite : rank < infinityRank)
    (bound : Nat) :
    |(ofRank negative rank).toRat| < bound ↔ units rank < bound * unitsPerOne := by
  have nonnegative : (0 : ℚ) ≤ (units rank : ℚ) / unitsPerOne :=
    div_nonneg (Nat.cast_nonneg _) (Nat.cast_nonneg _)
  have magnitude : |(ofRank negative rank).toRat| = (units rank : ℚ) / unitsPerOne := by
    rw [toRat_ofRank negative finite]
    cases negative with
    | false => exact abs_of_nonneg nonnegative
    | true => exact (abs_neg _).trans (abs_of_nonneg nonnegative)
  rw [magnitude, div_lt_iff₀ (Nat.cast_pos.mpr unitsPerOne_pos), ← Nat.cast_mul, Nat.cast_lt]

end Double

def Number.toRat : Number → ℚ
  | .whole value _ => value
  | .real value _ => value.toRat

end Scrutineer
