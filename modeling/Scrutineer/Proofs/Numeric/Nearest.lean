import Scrutineer.Numeric.Numeral
import Scrutineer.Proofs.Numeric.Whole

/-! The double of a numeral. The powers of ten that are not computed change nothing: a
numeral always goes to the double that is nearest to it. Tens may therefore be moved
from the digits of a numeral to its exponent. -/

namespace Scrutineer
namespace Double

theorem rankBelow_le_nearestRank (numerator denominator : Nat) :
    rankBelow (numerator * unitsPerOne / denominator) ≤ nearestRank numerator denominator := by
  unfold nearestRank
  dsimp only
  rcases chooseRank_cases _ (rankBelow (numerator * unitsPerOne / denominator)) with same | next
  · exact Nat.le_of_eq same.symm
  · rw [next]
    exact Nat.le_succ _

/-- Each doubling after the first fifty-three digits is one more step of ranks. -/
theorem le_rankBelow {magnitude doublings : Nat} (large : 2 ^ (doublings + 52) ≤ magnitude)
    (many : 1 ≤ doublings) : (doublings + 1) * binade ≤ rankBelow magnitude := by
  have binary : binade = 2 ^ 52 := by decide
  have nonzero : magnitude ≠ 0 :=
    Nat.ne_of_gt (Nat.lt_of_lt_of_le (Nat.two_pow_pos (doublings + 52)) large)
  have log : doublings + 52 ≤ magnitude.log2 := (Nat.le_log2 nonzero).mpr large
  have notSmall : ¬magnitude < 2 * binade := by
    have least : 2 ^ 53 ≤ 2 ^ (doublings + 52) := Nat.pow_le_pow_right Nat.two_pos (by omega)
    have double : 2 * binade = 2 ^ 53 := by decide
    rw [double]
    exact Nat.not_lt.mpr (Nat.le_trans least large)
  have digits : binade ≤ magnitude >>> (magnitude.log2 - 52) := by
    have exponent : 52 + (magnitude.log2 - 52) = magnitude.log2 := by omega
    rw [Nat.shiftRight_eq_div_pow, Nat.le_div_iff_mul_le (Nat.two_pow_pos _), binary,
      ← Nat.pow_add, exponent]
    exact Nat.log2_self_le nonzero
  have steps : doublings * binade ≤ (magnitude.log2 - 52) * binade :=
    Nat.mul_le_mul_right binade (by omega)
  unfold rankBelow
  rw [if_neg notSmall, Nat.add_mul, Nat.one_mul]
  exact Nat.add_le_add steps digits

theorem infinityRank_le_nearestRank {numerator : Nat} (large : 2 ^ 1024 ≤ numerator) :
    infinityRank ≤ nearestRank numerator 1 := by
  have split : 2 ^ (2046 + 52) = 2 ^ 1024 * unitsPerOne := by decide +kernel
  have scaled := Nat.mul_le_mul_right unitsPerOne large
  rw [← split] at scaled
  have below := le_rankBelow scaled (by decide)
  have nearest := rankBelow_le_nearestRank numerator 1
  rw [Nat.div_one] at nearest
  exact Nat.le_trans below nearest

/-- Less than half of the smallest positive double goes to zero. -/
theorem nearestRank_eq_zero {numerator denominator : Nat}
    (small : 2 * (numerator * unitsPerOne) < denominator) :
    nearestRank numerator denominator = 0 := by
  have within : numerator * unitsPerOne < denominator := by omega
  have below : rankBelow (numerator * unitsPerOne / denominator) = 0 := by
    rw [Nat.div_eq_of_lt within]
    rfl
  have middle : (units 0 + units (0 + 1)) * denominator = denominator := by
    rw [units_of_lt (by decide), units_of_lt (by decide), Nat.zero_add, Nat.zero_add, Nat.one_mul]
  have order : compare (2 * (numerator * unitsPerOne)) denominator = .lt :=
    Nat.compare_eq_lt.mpr small
  unfold nearestRank
  rw [below]
  dsimp only
  rw [middle, order]
  rfl

end Double

namespace Numeral

theorem ten_pow_pos (exponent : Nat) : 0 < 10 ^ exponent :=
  Nat.pow_pos (by decide)

def rank (significand : Nat) (exponent : Int) : Nat :=
  if 0 ≤ exponent then Double.nearestRank (significand * 10 ^ exponent.toNat) 1
  else Double.nearestRank significand (10 ^ (-exponent).toNat)

theorem infinityRank_le_rank {significand : Nat} {exponent : Int} (nonzero : significand ≠ 0)
    (large : 310 < exponent) : Double.infinityRank ≤ rank significand exponent := by
  have least : 2 ^ 1024 ≤ 10 ^ 311 := by decide +kernel
  have few : 311 ≤ exponent.toNat := by omega
  rw [rank, if_pos (by omega)]
  apply Double.infinityRank_le_nearestRank
  calc 2 ^ 1024
    _ ≤ 10 ^ 311 := least
    _ ≤ 10 ^ exponent.toNat := Nat.pow_le_pow_right (by decide) few
    _ ≤ significand * 10 ^ exponent.toNat :=
      Nat.le_mul_of_pos_left _ (Nat.pos_of_ne_zero nonzero)

theorem rank_eq_zero {significand : Nat} {exponent : Int}
    (small : exponent < -(significand.log2 + 330 : Int)) : rank significand exponent = 0 := by
  have digits := Nat.lt_log2_self (n := significand)
  generalize significand.log2 = log at small digits
  -- Each binary digit is outweighed by one ten, and the smallest unit by the other 331.
  have far : 2 ^ 1076 < 10 ^ 331 := by decide +kernel
  have exact : 2 * (2 ^ (log + 1) * Double.unitsPerOne) = 2 ^ log * 2 ^ 1076 := by
    rw [Double.unitsPerOne_eq, ← Nat.pow_add 2 (log + 1) 1074, ← Nat.pow_succ',
      ← Nat.pow_add 2 log 1076]
  have power : 10 ^ log * 10 ^ 331 ≤ 10 ^ (-exponent).toNat := by
    rw [← Nat.pow_add 10 log 331]
    exact Nat.pow_le_pow_right (by decide) (by omega)
  have bases : 2 ^ log ≤ 10 ^ log := Nat.pow_le_pow_left (by decide) log
  rw [rank, if_neg (by omega)]
  apply Double.nearestRank_eq_zero
  calc 2 * (significand * Double.unitsPerOne)
    _ ≤ 2 * (2 ^ (log + 1) * Double.unitsPerOne) :=
      Nat.mul_le_mul_left 2 (Nat.mul_le_mul_right _ (Nat.le_of_lt digits))
    _ = 2 ^ log * 2 ^ 1076 := exact
    _ ≤ 10 ^ log * 2 ^ 1076 := Nat.mul_le_mul_right _ bases
    _ < 10 ^ log * 10 ^ 331 := Nat.mul_lt_mul_of_pos_left far (ten_pow_pos log)
    _ ≤ 10 ^ (-exponent).toNat := power

theorem toDouble_eq {numeral : Numeral} (nonzero : numeral.significand ≠ 0) :
    numeral.toDouble = .ofRank numeral.negative (rank numeral.significand numeral.exponent) := by
  unfold toDouble
  rw [if_neg nonzero]
  by_cases large : 310 < numeral.exponent
  · have beyond := infinityRank_le_rank nonzero large
    rw [if_pos large]
    unfold Double.infinity Double.ofRank
    simp only [Nat.min_eq_right beyond, Nat.min_self]
  · rw [if_neg large]
    by_cases small : numeral.exponent < -(numeral.significand.log2 + 330 : Int)
    · rw [if_pos small, rank_eq_zero small]
    · rw [if_neg small, rank, Double.nearest, Double.nearest]
      split
      · rfl
      · rfl

theorem rank_mul_pow (significand tens : Nat) (exponent : Int) :
    rank (significand * 10 ^ tens) exponent = rank significand (exponent + tens) := by
  unfold rank
  by_cases whole : 0 ≤ exponent
  · have power : (exponent + tens).toNat = tens + exponent.toNat := by omega
    rw [if_pos whole, if_pos (by omega), power, Nat.pow_add, Nat.mul_assoc]
  · rw [if_neg whole]
    by_cases lifted : 0 ≤ exponent + tens
    · -- Some of the tens cancel the denominator and the others stay.
      have power : tens = (exponent + tens).toNat + (-exponent).toNat := by omega
      have scaled := Double.nearestRank_mul (significand * 10 ^ (exponent + tens).toNat) 1
        (ten_pow_pos (-exponent).toNat)
      rw [Nat.one_mul, Nat.mul_assoc, ← Nat.pow_add, ← power] at scaled
      rw [if_pos lifted, scaled]
    · have power : (-exponent).toNat = (-(exponent + tens)).toNat + tens := by omega
      rw [if_neg lifted, power, Nat.pow_add]
      exact Double.nearestRank_mul significand _ (ten_pow_pos tens)

end Numeral
end Scrutineer
