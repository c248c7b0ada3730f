import Scrutineer.Numeric.Double

/-! Whole numbers of machine size are far from the end of the doubles. The rank of a
magnitude grows by one step of ranks for each doubling, so a bound on the number of
binary digits bounds the rank. -/

namespace Scrutineer
namespace Double

/-- A magnitude of at most fifty-three binary digits more than `bits` lies
within `bits + 2` doublings of the ranks. -/
theorem rankBelow_lt (magnitude bits : Nat) (bounded : magnitude < (2 * binade) <<< bits) :
    rankBelow magnitude < (bits + 2) * binade := by
  have binary : 2 * binade = 2 ^ 53 := by decide
  unfold rankBelow
  by_cases small : magnitude < 2 * binade
  · rw [if_pos small]
    exact Nat.lt_of_lt_of_le small (Nat.mul_le_mul_right binade (Nat.le_add_left 2 bits))
  · rw [if_neg small]
    dsimp only
    rw [Nat.shiftLeft_eq, binary, ← Nat.pow_add] at bounded
    rw [binary] at small
    have nonzero : magnitude ≠ 0 := by omega
    have shortLog : magnitude.log2 < 53 + bits := (Nat.log2_lt nonzero).mpr bounded
    have longLog : 53 ≤ magnitude.log2 := (Nat.le_log2 nonzero).mpr (Nat.not_lt.mp small)
    -- The shifted magnitude keeps fifty-three digits, less than two steps of ranks.
    generalize shiftAt : magnitude.log2 - 52 = shift
    have digits : magnitude < 2 ^ 53 * 2 ^ shift := by
      rw [← Nat.pow_add]
      have exponent : 53 + shift = magnitude.log2 + 1 := by omega
      rw [exponent]
      exact Nat.lt_log2_self
    have mantissa : magnitude >>> shift < 2 * binade := by
      rw [Nat.shiftRight_eq_div_pow, binary]
      exact Nat.div_lt_of_lt_mul (by rw [Nat.mul_comm]; exact digits)
    have steps : shift ≤ bits := by omega
    have scaled : shift * binade ≤ bits * binade := Nat.mul_le_mul_right binade steps
    rw [Nat.add_mul]
    omega

theorem isFinite_ofRank_iff (negative : Bool) (rank : Nat) :
    (ofRank negative rank).isFinite = true ↔ rank < infinityRank := by
  change decide (min rank infinityRank < infinityRank) = true ↔ _
  rw [decide_eq_true_iff]
  by_cases within : rank < infinityRank
  · rw [Nat.min_eq_left (Nat.le_of_lt within)]
  · rw [Nat.min_eq_right (Nat.not_lt.mp within)]
    exact iff_of_false (Nat.lt_irrefl infinityRank) within

theorem chooseRank_le (order : Ordering) (below : Nat) : chooseRank order below ≤ below + 1 := by
  unfold chooseRank
  split
  · exact Nat.le_add_right below 1
  · exact Nat.le_refl (below + 1)
  · split
    · exact Nat.le_add_right below 1
    · exact Nat.le_refl (below + 1)

theorem nearestRank_le (numerator denominator : Nat) :
    nearestRank numerator denominator ≤
      rankBelow (numerator * unitsPerOne / denominator) + 1 :=
  chooseRank_le _ _

private theorem mul_shiftLeft_lt (value exponent : Nat) (bounded : value < UInt64.size) :
    value * (1 <<< exponent) < (2 * binade) <<< (exponent + 11) := by
  have split : (2 * binade) <<< (exponent + 11) = UInt64.size * 2 ^ exponent := by
    have range : 2 * binade * 2 ^ 11 = UInt64.size := by decide
    rw [Nat.shiftLeft_eq, Nat.pow_add, Nat.mul_comm (2 ^ exponent), ← Nat.mul_assoc, range]
  rw [split, Nat.one_shiftLeft]
  exact Nat.mul_lt_mul_of_pos_right bounded (Nat.two_pow_pos exponent)

theorem isFinite_ofInt (value : Int) (bounded : value.natAbs < UInt64.size) :
    (ofInt value).isFinite = true := by
  unfold ofInt nearest
  rw [isFinite_ofRank_iff]
  have magnitude : value.natAbs * unitsPerOne < (2 * binade) <<< (1074 + 11) :=
    mul_shiftLeft_lt value.natAbs 1074 bounded
  have upper := nearestRank_le value.natAbs 1
  rw [Nat.div_one] at upper
  have below := rankBelow_lt _ (1074 + 11) magnitude
  unfold infinityRank
  have room : (1074 + 11 + 2) * binade + 1 ≤ 2047 * binade := by decide
  omega

end Double
end Scrutineer
