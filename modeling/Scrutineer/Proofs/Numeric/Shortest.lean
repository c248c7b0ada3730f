import Scrutineer.Numeric.Shortest
import Scrutineer.Proofs.Numeric.Digits
import Scrutineer.Proofs.Numeric.Nearest

/-! The shortest decimal reads back. The exact expansion of a finite rank reads back
as that rank, and a shorter decimal is only taken when it does. Moving the zeros at
its end to the exponent does not change what it denotes. -/

namespace Scrutineer
namespace Decimal

def HasRank (decimal : Decimal) (rank : Nat) : Prop :=
  decimal.significand ≠ 0 ∧ Numeral.rank decimal.significand decimal.exponent = rank

theorem hasRank_of_readsBackAs {decimal : Decimal} {rank : Nat} (positive : 0 < rank)
    (finite : rank < Double.infinityRank) (reads : decimal.readsBackAs rank = true) :
    decimal.HasRank rank := by
  have same := eq_of_beq reads
  have nonzero : decimal.significand ≠ 0 := by
    intro zero
    rw [Numeral.toDouble, if_pos zero, Double.ofRank, Double.ofRank] at same
    injection same with _sign ranks
    rw [Nat.zero_min, Nat.min_eq_left (Nat.le_of_lt finite)] at ranks
    omega
  refine ⟨nonzero, ?_⟩
  rw [Numeral.toDouble_eq nonzero, Double.ofRank, Double.ofRank] at same
  injection same with _sign ranks
  rw [Nat.min_eq_left (Nat.le_of_lt finite)] at ranks
  dsimp only at ranks
  omega

/-- A number of tenths is as many halves of a multiple of five. -/
private theorem hasRank_of_fives (digits fives : Nat) {rank : Nat} (positive : 0 < digits)
    (some : 0 < fives) (same : digits * Double.unitsPerOne = Double.units rank * 2 ^ fives) :
    HasRank { significand := digits * Nat.pow 5 fives, exponent := -(fives : Int) } rank := by
  have power : (- -(fives : Int)).toNat = fives := by omega
  refine ⟨Nat.ne_of_gt (Nat.mul_pos positive (Nat.pow_pos (by decide))), ?_⟩
  have below : ¬(0 : Int) ≤ -(fives : Int) := by omega
  rw [Numeral.rank, if_neg below, power]
  apply Double.nearestRank_of_units (Numeral.ten_pow_pos _)
  calc digits * Nat.pow 5 fives * Double.unitsPerOne
    _ = digits * Double.unitsPerOne * 5 ^ fives := Nat.mul_right_comm _ _ _
    _ = Double.units rank * (2 ^ fives * 5 ^ fives) := by rw [same, Nat.mul_assoc]
    _ = Double.units rank * 10 ^ fives := by rw [← Nat.mul_pow]

theorem hasRank_ofRank {rank : Nat} (positive : 0 < rank) : (ofRank rank).HasRank rank := by
  unfold ofRank
  by_cases small : rank < 2 * Double.binade
  · have same : rank * Double.unitsPerOne = Double.units rank * 2 ^ 1074 := by
      rw [Double.units_of_lt small, Double.unitsPerOne_eq]
    have exponent : (-1074 : Int) = -((1074 : Nat) : Int) := rfl
    rw [if_pos small, exponent]
    exact hasRank_of_fives rank 1074 positive (by decide) same
  · have units : Double.units rank =
        (Double.binade + rank % Double.binade) * 2 ^ (rank / Double.binade - 1) := by
      rw [Double.units, if_neg small, Nat.shiftLeft_eq]
    have digitsPositive : 0 < Double.binade + rank % Double.binade :=
      Nat.lt_of_lt_of_le Double.binade_pos (Nat.le_add_right _ _)
    rw [if_neg small]
    dsimp only
    generalize Double.binade + rank % Double.binade = digits at units digitsPositive ⊢
    generalize rank / Double.binade - 1 = shift at units ⊢
    -- With as many doublings as there are units in one, nothing stands behind the point.
    by_cases whole : 1074 ≤ shift
    · rw [if_pos whole, Nat.shiftLeft_eq]
      refine ⟨Nat.ne_of_gt (Nat.mul_pos digitsPositive (Nat.two_pow_pos _)), ?_⟩
      rw [Numeral.rank, if_pos (Int.le_refl 0)]
      apply Double.nearestRank_of_units Nat.one_pos
      rw [units, Double.unitsPerOne_eq, Int.toNat_zero, Nat.pow_zero, Nat.mul_one, Nat.mul_one,
        Nat.mul_assoc, ← Nat.pow_add, Nat.sub_add_cancel whole]
    · have below := Nat.le_of_not_le whole
      have exponent : (shift : Int) - 1074 = -((1074 - shift : Nat) : Int) := by omega
      have same : digits * Double.unitsPerOne = Double.units rank * 2 ^ (1074 - shift) := by
        rw [units, Double.unitsPerOne_eq, Nat.mul_assoc, ← Nat.pow_add, Nat.add_sub_cancel' below]
      rw [if_neg whole, exponent]
      exact hasRank_of_fives digits _ digitsPositive (by omega) same

theorem readsBackAs_of_candidate? {rule : HalfwayRule} {rank length digits : Nat}
    {exact chosen : Decimal} (found : candidate? rule rank exact length digits = some chosen) :
    chosen.readsBackAs rank = true := by
  unfold candidate? at found
  dsimp only at found
  split at found
  · rename_i both
    rw [Bool.and_eq_true] at both
    split at found
    · cases found
      exact both.2
    · cases found
      exact both.1
  · split at found
    · rename_i lower
      cases found
      exact lower
    · split at found
      · rename_i upper
        cases found
        exact upper
      · cases found

theorem hasRank_shortest (rule : HalfwayRule) {rank : Nat} (positive : 0 < rank)
    (finite : rank < Double.infinityRank) : (shortest rule rank).HasRank rank := by
  unfold shortest
  dsimp only
  cases found : (List.range (min 17 (ofRank rank).length)).findSome? fun fewer =>
      candidate? rule rank (ofRank rank) (ofRank rank).length (fewer + 1) with
  | none => exact hasRank_ofRank positive
  | some chosen =>
      obtain ⟨fewer, _within, candidate⟩ := List.exists_of_findSome?_eq_some found
      exact hasRank_of_readsBackAs positive finite (readsBackAs_of_candidate? candidate)

theorem pow_zeros_dvd (value : Nat) :
    10 ^ ((Nat.toDigits 10 value).reverse.takeWhile (· == '0')).length ∣ value := by
  generalize shape : (Nat.toDigits 10 value).reverse.takeWhile (· == '0') = zeros
  have allZero : zeros = List.replicate zeros.length '0' := by
    apply List.eq_replicate_of_mem
    intro digit member
    rw [← shape] at member
    have zero := List.all_eq_true.mp List.all_takeWhile digit member
    exact eq_of_beq zero
  have whole : Nat.toDigits 10 value =
      ((Nat.toDigits 10 value).reverse.dropWhile (· == '0')).reverse ++ zeros := by
    have joined := List.takeWhile_append_dropWhile (p := (· == '0'))
      (l := (Nat.toDigits 10 value).reverse)
    rw [shape] at joined
    have reversed := congrArg List.reverse joined
    rw [List.reverse_append, List.reverse_reverse, allZero, List.reverse_replicate,
      ← allZero] at reversed
    exact reversed.symm
  have denoted : Nat.ofDigitChars 10 (Nat.toDigits 10 value) 0 = value :=
    Nat.ofDigitChars_ten_toDigits
  rw [whole, Nat.ofDigitChars_append, allZero, Nat.ofDigitChars_replicate_zero] at denoted
  exact ⟨_, denoted.symm⟩

theorem HasRank.withoutTrailingZeros {decimal : Decimal} {rank : Nat}
    (known : decimal.HasRank rank) : decimal.withoutTrailingZeros.HasRank rank := by
  obtain ⟨nonzero, same⟩ := known
  have divides := pow_zeros_dvd decimal.significand
  unfold Decimal.withoutTrailingZeros
  rw [if_neg nonzero]
  generalize ((Nat.toDigits 10 decimal.significand).reverse.takeWhile (· == '0')).length = zeros
    at divides ⊢
  have whole : decimal.significand / 10 ^ zeros * 10 ^ zeros = decimal.significand :=
    Nat.div_mul_cancel divides
  constructor
  · intro none
    change decimal.significand / 10 ^ zeros = 0 at none
    rw [none, Nat.zero_mul] at whole
    exact nonzero whole.symm
  · change Numeral.rank (decimal.significand / 10 ^ zeros) (decimal.exponent + zeros) = rank
    rw [← Numeral.rank_mul_pow, whole, same]

end Decimal
end Scrutineer
