import Scrutineer.Numeric.Int64
import Scrutineer.Proofs.Numeric.Rank

/-! Whole numbers as doubles. A whole number of machine size is a double exactly when
it has at most fifty-three binary digits in front of its zeros. Any other is rounded
to a number that has. -/

namespace Scrutineer
namespace Double

/-- At most fifty-three binary digits stand in front of the zeros at the end. -/
def FitsDigits (magnitude : Nat) : Prop :=
  2 ^ (magnitude.log2 - 52) ∣ magnitude

instance (magnitude : Nat) : Decidable (FitsDigits magnitude) :=
  inferInstanceAs (Decidable (2 ^ (magnitude.log2 - 52) ∣ magnitude))

theorem fitsDigits_of_short {magnitude : Nat} (short : magnitude.log2 ≤ 52) :
    FitsDigits magnitude := by
  unfold FitsDigits
  rw [Nat.sub_eq_zero_of_le short]
  exact Nat.one_dvd magnitude

theorem unitsPerOne_eq : unitsPerOne = 2 ^ 1074 := by
  decide +kernel

theorem unitsPerOne_pos : 0 < unitsPerOne := by
  decide +kernel

theorem two_binades_le_unitsPerOne : 2 * binade ≤ unitsPerOne := by
  decide +kernel

theorem log2_lt_of_bounded {magnitude : Nat} (nonzero : magnitude ≠ 0)
    (bounded : magnitude < UInt64.size) : magnitude.log2 < 64 :=
  (Nat.log2_lt nonzero).mpr bounded

theorem lt_infinityRank (doublings digits : Nat) (few : doublings ≤ 1086)
    (high : digits ≤ 2 * binade) : doublings * binade + digits < infinityRank := by
  have steps : doublings * binade ≤ 1086 * binade := Nat.mul_le_mul_right binade few
  have room : 1086 * binade + 2 * binade < infinityRank := by decide
  omega

theorem exists_digits_of_fits {magnitude : Nat} (nonzero : magnitude ≠ 0)
    (fits : FitsDigits magnitude) :
    ∃ digits, binade ≤ digits ∧ digits < 2 * binade ∧
      digits * 2 ^ (magnitude.log2 + 1022) = magnitude * unitsPerOne := by
  have lower := Nat.log2_self_le nonzero
  have upper := Nat.lt_log2_self (n := magnitude)
  have binary : binade = 2 ^ 52 := by decide
  rw [binary, unitsPerOne_eq]
  -- A short number gets zeros behind it, and a long one loses those that it has.
  by_cases short : magnitude.log2 ≤ 52
  · have scale : 2 ^ 52 = 2 ^ magnitude.log2 * 2 ^ (52 - magnitude.log2) := by
      rw [← Nat.pow_add, Nat.add_sub_cancel' short]
    have doubled : 2 * 2 ^ 52 = 2 ^ (magnitude.log2 + 1) * 2 ^ (52 - magnitude.log2) := by
      rw [scale, Nat.pow_succ, Nat.mul_comm 2, Nat.mul_right_comm]
    refine ⟨magnitude * 2 ^ (52 - magnitude.log2), ?_, ?_, ?_⟩
    · rw [scale]
      exact Nat.mul_le_mul_right _ lower
    · rw [doubled]
      exact Nat.mul_lt_mul_of_pos_right upper (Nat.two_pow_pos _)
    · have exponent : 52 - magnitude.log2 + (magnitude.log2 + 1022) = 1074 := by
        clear scale doubled lower upper
        omega
      rw [Nat.mul_assoc, ← Nat.pow_add, exponent]
  · obtain ⟨digits, same⟩ := fits
    have exponent : magnitude.log2 = magnitude.log2 - 52 + 52 := by omega
    have positive := Nat.two_pow_pos (magnitude.log2 - 52)
    refine ⟨digits, ?_, ?_, ?_⟩
    · apply Nat.le_of_mul_le_mul_left _ positive
      rw [← same, ← Nat.pow_add, ← exponent]
      exact lower
    · apply Nat.lt_of_mul_lt_mul_left (a := 2 ^ (magnitude.log2 - 52))
      have doubled : 2 ^ (magnitude.log2 - 52) * (2 * 2 ^ 52) = 2 ^ (magnitude.log2 + 1) := by
        rw [Nat.mul_left_comm, ← Nat.pow_add, ← exponent, Nat.pow_succ, Nat.mul_comm]
      rw [← same, doubled]
      exact upper
    · have shift : magnitude.log2 + 1022 = magnitude.log2 - 52 + 1074 := by omega
      rw [shift, Nat.pow_add, ← Nat.mul_assoc, Nat.mul_comm digits, ← same]

theorem exists_rank_of_fits {magnitude : Nat} (bounded : magnitude < UInt64.size)
    (fits : FitsDigits magnitude) :
    ∃ rank, rank < infinityRank ∧ units rank = magnitude * unitsPerOne := by
  by_cases zero : magnitude = 0
  · refine ⟨0, by decide, ?_⟩
    rw [zero, Nat.zero_mul]
    exact units_of_lt (by decide)
  · obtain ⟨digits, low, high, same⟩ := exists_digits_of_fits zero fits
    have log := log2_lt_of_bounded zero bounded
    refine ⟨(magnitude.log2 + 1022) * binade + digits, ?_, ?_⟩
    · exact lt_infinityRank _ digits (by omega) (Nat.le_of_lt high)
    · rw [units_shifted _ digits low (Nat.le_of_lt high), same]

theorem wholePart_ofRank (negative : Bool) {rank : Nat} (finite : rank < infinityRank) :
    (ofRank negative rank).wholePart =
      if negative then -((units rank / unitsPerOne : Nat) : Int)
      else ((units rank / unitsPerOne : Nat) : Int) := by
  unfold ofRank wholePart
  dsimp only
  rw [Nat.min_eq_left (Nat.le_of_lt finite)]

theorem wholePart_ofInt_of_fits {value : Int} (bounded : value.natAbs < UInt64.size)
    (fits : FitsDigits value.natAbs) : (ofInt value).wholePart = value := by
  obtain ⟨rank, finite, same⟩ := exists_rank_of_fits bounded fits
  have rounded : nearestRank value.natAbs 1 = rank := by
    apply nearestRank_of_units Nat.one_pos
    rw [same, Nat.mul_one]
  have whole : units rank / unitsPerOne = value.natAbs := by
    rw [same, Nat.mul_div_cancel _ unitsPerOne_pos]
  unfold ofInt nearest
  rw [rounded, wholePart_ofRank _ finite, whole]
  by_cases negative : value < 0
  · rw [if_pos (decide_eq_true negative)]
    omega
  · rw [if_neg (by rw [decide_eq_true_iff]; exact negative)]
    omega

/-! ### Rounded whole numbers -/

theorem chooseRank_cases (order : Ordering) (below : Nat) :
    chooseRank order below = below ∨ chooseRank order below = below + 1 := by
  unfold chooseRank
  split
  · exact .inl rfl
  · exact .inr rfl
  · split
    · exact .inl rfl
    · exact .inr rfl

theorem ne_zero_of_long {magnitude : Nat} (long : 52 ≤ magnitude.log2) : magnitude ≠ 0 := by
  intro zero
  rw [zero] at long
  exact absurd long (by decide)

theorem rankBelow_long {magnitude : Nat} (long : 52 ≤ magnitude.log2) :
    ∃ digits, binade ≤ digits ∧ digits < 2 * binade ∧
      rankBelow (magnitude * unitsPerOne) = (magnitude.log2 + 1022) * binade + digits := by
  have nonzero := ne_zero_of_long long
  have lower := Nat.log2_self_le nonzero
  have upper := Nat.lt_log2_self (n := magnitude)
  have binary : binade = 2 ^ 52 := by decide
  have scaledLog := log2_mul_two_pow nonzero 1074
  generalize magnitude.log2 = log at long lower upper scaledLog ⊢
  have large : ¬magnitude * unitsPerOne < 2 * binade :=
    Nat.not_lt.mpr (Nat.le_trans two_binades_le_unitsPerOne
      (Nat.le_mul_of_pos_left _ (Nat.pos_of_ne_zero nonzero)))
  have shift : log + 1074 - 52 = log - 52 + 1074 := by omega
  have exponent : log = log - 52 + 52 := by omega
  refine ⟨magnitude / 2 ^ (log - 52), ?_, ?_, ?_⟩
  · rw [Nat.le_div_iff_mul_le (Nat.two_pow_pos _), binary, Nat.mul_comm, ← Nat.pow_add, ← exponent]
    exact lower
  · apply Nat.div_lt_of_lt_mul
    rw [binary, Nat.mul_left_comm, ← Nat.pow_add, ← exponent, Nat.mul_comm, ← Nat.pow_succ]
    exact upper
  · unfold rankBelow
    rw [if_neg large]
    dsimp only
    rw [unitsPerOne_eq, scaledLog, Nat.shiftRight_eq_div_pow, shift, Nat.pow_add,
      Nat.mul_div_mul_right _ _ (Nat.two_pow_pos 1074)]
    have doublings : log - 52 + 1074 = log + 1022 := by omega
    rw [doublings]

/-- A long number is rounded to fifty-three digits with zeros behind them, or to
the next power of two. -/
theorem nearestRank_long {magnitude : Nat} (bounded : magnitude < UInt64.size)
    (long : 52 ≤ magnitude.log2) :
    ∃ kept, binade ≤ kept ∧ nearestRank magnitude 1 < infinityRank ∧
      units (nearestRank magnitude 1) = kept * 2 ^ (magnitude.log2 - 52) * unitsPerOne := by
  obtain ⟨digits, low, high, below⟩ := rankBelow_long long
  have log := log2_lt_of_bounded (ne_zero_of_long long) bounded
  have rounded : ∃ kept, binade ≤ kept ∧ kept ≤ 2 * binade ∧
      nearestRank magnitude 1 = (magnitude.log2 + 1022) * binade + kept := by
    unfold nearestRank
    rw [Nat.div_one, below]
    dsimp only
    rcases chooseRank_cases _ ((magnitude.log2 + 1022) * binade + digits) with same | next
    · exact ⟨digits, low, Nat.le_of_lt high, same⟩
    · refine ⟨digits + 1, Nat.le_succ_of_le low, high, ?_⟩
      rw [next, Nat.add_assoc]
  obtain ⟨kept, keptLow, keptHigh, same⟩ := rounded
  have few : magnitude.log2 + 1022 ≤ 1086 := Nat.add_le_add_right (Nat.le_of_lt log) 1022
  have shift : magnitude.log2 + 1022 = magnitude.log2 - 52 + 1074 := by omega
  refine ⟨kept, keptLow, ?_, ?_⟩
  · rw [same]
    exact lt_infinityRank _ kept few keptHigh
  · rw [same, units_shifted _ kept keptLow keptHigh, shift, Nat.pow_add, ← Nat.mul_assoc,
      unitsPerOne_eq]

theorem dvd_wholePart_ofInt {value : Int} (bounded : value.natAbs < UInt64.size)
    (long : 52 ≤ value.natAbs.log2) :
    ((2 ^ (value.natAbs.log2 - 52) : Nat) : Int) ∣ (ofInt value).wholePart := by
  obtain ⟨kept, _low, finite, same⟩ := nearestRank_long bounded long
  have whole : units (nearestRank value.natAbs 1) / unitsPerOne =
      kept * 2 ^ (value.natAbs.log2 - 52) := by
    rw [same, Nat.mul_div_cancel _ unitsPerOne_pos]
  have divides : ((2 ^ (value.natAbs.log2 - 52) : Nat) : Int) ∣
      ((kept * 2 ^ (value.natAbs.log2 - 52) : Nat) : Int) :=
    Int.natCast_dvd_natCast.mpr (Nat.dvd_mul_left _ kept)
  unfold ofInt nearest
  rw [wholePart_ofRank _ finite, whole]
  split
  · exact Int.dvd_neg.mpr divides
  · exact divides

theorem wholePart_ofInt_long {value : Int} (positive : 0 ≤ value)
    (bounded : value.natAbs < UInt64.size) (long : 52 ≤ value.natAbs.log2) :
    (ofInt value).isWhole = true ∧
      ((2 ^ value.natAbs.log2 : Nat) : Int) ≤ (ofInt value).wholePart := by
  obtain ⟨kept, low, finite, same⟩ := nearestRank_long bounded long
  have binary : binade = 2 ^ 52 := by decide
  have exponent : value.natAbs.log2 = 52 + (value.natAbs.log2 - 52) := by omega
  have sign : decide (value < 0) = false := decide_eq_false (Int.not_lt.mpr positive)
  unfold ofInt nearest
  rw [sign]
  constructor
  · unfold ofRank isWhole
    dsimp only
    rw [Nat.min_eq_left (Nat.le_of_lt finite), same, Nat.mul_mod_left, decide_eq_true finite]
    rfl
  · rw [wholePart_ofRank false finite, same, Nat.mul_div_cancel _ unitsPerOne_pos, exponent,
      Nat.add_sub_cancel_left, Nat.pow_add, ← binary]
    exact Int.ofNat_le.mpr (Nat.mul_le_mul_right _ low)

/-- A whole number of machine size survives as a double exactly when it fits. -/
theorem wholePart_ofInt_eq_iff {value : Int} (bounded : value.natAbs < UInt64.size) :
    (ofInt value).wholePart = value ↔ FitsDigits value.natAbs := by
  constructor
  · intro same
    by_cases long : 52 ≤ value.natAbs.log2
    · have divides := dvd_wholePart_ofInt bounded long
      rw [same] at divides
      exact Int.ofNat_dvd_left.mp divides
    · exact fitsDigits_of_short (by omega)
  · exact wholePart_ofInt_of_fits bounded

end Double
end Scrutineer
