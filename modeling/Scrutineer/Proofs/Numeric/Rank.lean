import Mathlib.Algebra.Group.Nat.Defs
import Scrutineer.Proofs.Numeric.Range

/-! From the first power of two on, a rank is a number of doublings and fifty-three
binary digits, and its magnitude is those digits shifted by the doublings. Looking up
the rank of a magnitude undoes this, so that a quotient that is the magnitude at a
rank is rounded to just that rank. -/

namespace Scrutineer
namespace Double

theorem binade_pos : 0 < binade := by decide

theorem units_of_lt {rank : Nat} (small : rank < 2 * binade) : units rank = rank := by
  unfold units
  rw [if_pos small]

/-- The digits may reach the next power of two, whose rank can be written in
either way. -/
theorem units_shifted (doublings digits : Nat) (low : binade ≤ digits)
    (high : digits ≤ 2 * binade) :
    units (doublings * binade + digits) = digits * 2 ^ doublings := by
  have positive := binade_pos
  -- Full digits are the first ones of the next power of two, one doubling further.
  rcases Nat.eq_or_lt_of_le high with full | within
  · have shape : doublings * binade + digits = binade * (doublings + 2) := by
      rw [full, Nat.mul_comm, Nat.mul_add, Nat.mul_comm 2]
    have large : ¬binade * (doublings + 2) < 2 * binade := by
      have least : binade * 2 ≤ binade * (doublings + 2) :=
        Nat.mul_le_mul_left binade (Nat.le_add_left 2 doublings)
      omega
    unfold units
    rw [shape, if_neg large, Nat.mul_mod_right, Nat.mul_div_cancel_left _ positive,
      Nat.shiftLeft_eq, Nat.add_zero, full]
    have exponent : doublings + 2 - 1 = doublings + 1 := by omega
    rw [exponent, Nat.pow_succ, ← Nat.mul_assoc, Nat.mul_comm 2 binade, Nat.mul_right_comm]
  · obtain ⟨rest, same⟩ := Nat.exists_eq_add_of_le low
    have restSmall : rest < binade := by omega
    have shape : doublings * binade + digits = rest + binade * (doublings + 1) := by
      rw [same, Nat.mul_add, Nat.mul_comm binade doublings]
      omega
    cases doublings with
    | zero => rw [Nat.zero_mul, Nat.zero_add, units_of_lt within, Nat.pow_zero, Nat.mul_one]
    | succ doublings =>
        have large : ¬rest + binade * (doublings + 1 + 1) < 2 * binade := by
          have least : binade * 2 ≤ binade * (doublings + 1 + 1) :=
            Nat.mul_le_mul_left binade (by omega)
          omega
        unfold units
        rw [shape, if_neg large, Nat.add_mul_mod_self_left, Nat.mod_eq_of_lt restSmall,
          Nat.add_mul_div_left _ _ positive, Nat.div_eq_of_lt restSmall, Nat.shiftLeft_eq, same]
        have exponent : 0 + (doublings + 1 + 1) - 1 = doublings + 1 := by omega
        rw [exponent]

theorem log2_mul_two_pow {value : Nat} (nonzero : value ≠ 0) (doublings : Nat) :
    (value * 2 ^ doublings).log2 = value.log2 + doublings := by
  have positive := Nat.two_pow_pos doublings
  have lower := Nat.log2_self_le nonzero
  have upper := Nat.lt_log2_self (n := value)
  rw [Nat.log2_eq_iff (Nat.mul_ne_zero nonzero (Nat.ne_of_gt positive)), Nat.add_right_comm,
    Nat.pow_add, Nat.pow_add _ (value.log2 + 1)]
  exact ⟨Nat.mul_le_mul_right _ lower, Nat.mul_lt_mul_of_pos_right upper positive⟩

theorem rankBelow_shifted (doublings digits : Nat) (low : binade ≤ digits)
    (high : digits < 2 * binade) :
    rankBelow (digits * 2 ^ doublings) = doublings * binade + digits := by
  have binary : binade = 2 ^ 52 := by decide
  unfold rankBelow
  cases doublings with
  | zero => rw [Nat.pow_zero, Nat.mul_one, if_pos high, Nat.zero_mul, Nat.zero_add]
  | succ doublings =>
      have large : ¬digits * 2 ^ (doublings + 1) < 2 * binade := by
        have least : binade * 2 ^ 1 ≤ digits * 2 ^ (doublings + 1) :=
          Nat.mul_le_mul low (Nat.pow_le_pow_right (by decide) (by omega))
        omega
      have nonzero : digits ≠ 0 := Nat.ne_of_gt (Nat.lt_of_lt_of_le binade_pos low)
      have log : (digits * 2 ^ (doublings + 1)).log2 = 52 + (doublings + 1) := by
        rw [binary] at low high
        rw [log2_mul_two_pow nonzero, (Nat.log2_eq_iff nonzero).mpr ⟨low, high⟩]
      rw [if_neg large]
      dsimp only
      rw [log, Nat.add_sub_cancel_left, Nat.shiftRight_eq_div_pow,
        Nat.mul_div_cancel _ (Nat.two_pow_pos _)]

theorem exists_shifted_of_le {rank : Nat} (large : binade ≤ rank) :
    ∃ doublings digits, binade ≤ digits ∧ digits < 2 * binade ∧
      rank = doublings * binade + digits := by
  refine ⟨rank / binade - 1, binade + rank % binade, Nat.le_add_right _ _, ?_, ?_⟩
  · have small := Nat.mod_lt rank binade_pos
    omega
  · have whole := Nat.div_add_mod' rank binade
    have atLeast : 1 ≤ rank / binade := (Nat.one_le_div_iff binade_pos).mpr large
    obtain ⟨further, same⟩ := Nat.exists_eq_add_of_le atLeast
    rw [same] at whole ⊢
    rw [Nat.add_mul, Nat.one_mul] at whole
    rw [Nat.add_sub_cancel_left]
    omega

theorem rankBelow_units (rank : Nat) : rankBelow (units rank) = rank := by
  by_cases small : rank < binade
  · have within : rank < 2 * binade := by omega
    rw [units_of_lt within]
    unfold rankBelow
    rw [if_pos within]
  · obtain ⟨doublings, digits, low, high, same⟩ := exists_shifted_of_le (Nat.not_lt.mp small)
    rw [same, units_shifted doublings digits low (Nat.le_of_lt high),
      rankBelow_shifted doublings digits low high]

theorem units_lt_units_succ (rank : Nat) : units rank < units (rank + 1) := by
  by_cases small : rank < binade
  · rw [units_of_lt (by omega), units_of_lt (by omega)]
    exact Nat.lt_succ_self rank
  · obtain ⟨doublings, digits, low, high, same⟩ := exists_shifted_of_le (Nat.not_lt.mp small)
    rw [same, Nat.add_assoc, units_shifted doublings digits low (Nat.le_of_lt high),
      units_shifted doublings (digits + 1) (by omega) high]
    exact Nat.mul_lt_mul_of_pos_right (Nat.lt_succ_self digits) (Nat.two_pow_pos _)

/-! ### Rounding -/

theorem nearestRank_of_units {numerator denominator rank : Nat} (positive : 0 < denominator)
    (exact : numerator * unitsPerOne = units rank * denominator) :
    nearestRank numerator denominator = rank := by
  have below : rankBelow (numerator * unitsPerOne / denominator) = rank := by
    rw [exact, Nat.mul_div_cancel _ positive, rankBelow_units]
  -- An exact quotient lies below the middle between its rank and the next one.
  have order : compare (2 * (numerator * unitsPerOne))
      ((units rank + units (rank + 1)) * denominator) = .lt := by
    rw [Nat.compare_eq_lt, exact, ← Nat.mul_assoc]
    apply Nat.mul_lt_mul_of_pos_right _ positive
    have above := units_lt_units_succ rank
    omega
  unfold nearestRank
  rw [below]
  dsimp only
  rw [order]
  rfl

/-- Rounding depends on the quotient alone. -/
theorem nearestRank_mul (numerator denominator : Nat) {factor : Nat} (positive : 0 < factor) :
    nearestRank (numerator * factor) (denominator * factor) =
      nearestRank numerator denominator := by
  have scaled : numerator * factor * unitsPerOne = numerator * unitsPerOne * factor :=
    Nat.mul_right_comm _ _ _
  have quotient : numerator * unitsPerOne * factor / (denominator * factor) =
      numerator * unitsPerOne / denominator :=
    Nat.mul_div_mul_right _ _ positive
  have order (middle : Nat) : compare (2 * (numerator * unitsPerOne * factor))
      (middle * (denominator * factor)) =
        compare (2 * (numerator * unitsPerOne)) (middle * denominator) := by
    have left : 2 * (numerator * unitsPerOne * factor) = 2 * (numerator * unitsPerOne) * factor :=
      (Nat.mul_assoc 2 _ factor).symm
    have right : middle * (denominator * factor) = middle * denominator * factor :=
      (Nat.mul_assoc middle _ factor).symm
    rw [left, right]
    simp only [Nat.compare_eq_ite_lt, Nat.mul_lt_mul_right positive]
  unfold nearestRank
  rw [scaled, quotient]
  dsimp only
  rw [order]

end Double
end Scrutineer
