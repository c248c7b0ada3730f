import Scrutineer.Json.Basic
import Scrutineer.Proofs.Json.Literal

/-! Numbers read back from their text. Both forms in which JSON shows the digits of a
double, the plain and the scientific one, are literals for those digits and their
power of ten. A whole number is a literal without a point and a power. -/

namespace Scrutineer

theorem Number.isFinite_toDouble (number : Number) : number.toDouble.isFinite = true := by
  cases number with
  | real value finite => exact finite
  | whole value bounded =>
      apply Double.isFinite_ofInt
      have lower : -9223372036854775808 ≤ value := bounded.1
      have upper : value < 18446744073709551616 := bounded.2
      change value.natAbs < 18446744073709551616
      omega

theorem Json.ofDouble_of_finite {value : Double} (finite : value.isFinite = true) :
    Json.ofDouble value = .number (.real value finite) := by
  rw [ofDouble, Number.ofDouble?, dif_pos finite]

namespace Number

/-- The digits of a positive number: they denote it, and do not start with a
zero. -/
structure DigitsOf (digits : List Char) (value : Nat) : Prop where
  areDigits : Count.AreDigits digits
  nonempty : digits ≠ []
  leading : digits.head? ≠ some '0'
  denoted : Nat.ofDigitChars 10 digits 0 = value

theorem digitsOf_toDigits {value : Nat} (positive : 0 < value) :
    DigitsOf (Nat.toDigits 10 value) value where
  areDigits := Count.areDigits_toDigits value
  nonempty := Nat.toDigits_ne_nil
  leading := Count.head?_toDigits_ne_zero positive
  denoted := Nat.ofDigitChars_ten_toDigits

/-- A text is a literal with a point or a power whose value is rounded to a
rank. -/
def Shows (characters : List Char) (rank : Nat) : Prop :=
  ∃ literal : Literal, literal.characters = characters ∧ literal.isWhole = false ∧
    literal.decimal.HasRank rank

theorem shows_pointed {whole fraction : List Char} {rank : Nat}
    (areDigits : Count.AreDigits (whole ++ fraction)) (nonempty : whole ≠ [])
    (leading : whole.head? = some '0' → whole = ['0']) (behind : fraction ≠ [])
    (has : Decimal.HasRank { significand := Nat.ofDigitChars 10 (whole ++ fraction) 0,
                             exponent := -(fraction.length : Int) } rank) :
    Shows (whole ++ '.' :: fraction) rank := by
  let literal : Literal :=
    { whole, fraction, power? := none, digits := areDigits, nonempty, leading }
  have value := literal.decimal_eq rfl (Int.zero_sub fraction.length)
  refine ⟨literal, ?_, ?_, value ▸ has⟩
  · change whole ++ (Literal.fractionText fraction ++ []) = _
    rw [List.append_nil, Literal.fractionText_of_ne_nil behind]
  · change (fraction.isEmpty && true) = false
    rw [List.isEmpty_eq_false_iff.mpr behind]
    rfl

section Layout

variable {digits : List Char} {significand rank : Nat} {exponent : Int}

/-- All digits stand behind the point. -/
private theorem shows_below (known : DigitsOf digits significand)
    (has : Decimal.HasRank { significand, exponent } rank)
    (below : exponent + digits.length ≤ 0) :
    Shows ('0' :: '.' :: (List.replicate (-(exponent + digits.length)).toNat '0' ++ digits))
      rank := by
  generalize count : (-(exponent + digits.length)).toNat = zeros
  have denoted : Nat.ofDigitChars 10 (List.replicate 1 '0' ++ (List.replicate zeros '0' ++ digits))
      0 = significand := by
    rw [Nat.ofDigitChars_append, Nat.ofDigitChars_append, Nat.ofDigitChars_replicate_zero,
      Nat.ofDigitChars_replicate_zero, Nat.mul_zero, known.denoted]
  have power : -((List.replicate zeros '0' ++ digits).length : Int) = exponent := by
    rw [List.length_append, List.length_replicate]
    omega
  refine shows_pointed ?_ (List.cons_ne_nil _ _) (fun _ => rfl)
    (List.append_ne_nil_of_right_ne_nil _ known.nonempty) ?_
  · exact (Count.areDigits_zeros 1).append ((Count.areDigits_zeros zeros).append known.areDigits)
  · rw [power]
    exact denoted.symm ▸ has

/-- The point stands between two digits. -/
private theorem shows_between (known : DigitsOf digits significand)
    (has : Decimal.HasRank { significand, exponent } rank)
    (above : 0 < exponent + digits.length)
    (within : (exponent + digits.length).toNat < digits.length) :
    Shows (digits.take (exponent + digits.length).toNat ++
      '.' :: digits.drop (exponent + digits.length).toNat) rank := by
  generalize point : (exponent + digits.length).toNat = place at within
  have positive : place ≠ 0 := by omega
  have whole : digits.take place ++ digits.drop place = digits := List.take_append_drop _ _
  have start : (digits.take place).head? = digits.head? := by
    rw [List.head?_take, if_neg positive]
  have power : -((digits.drop place).length : Int) = exponent := by
    rw [List.length_drop]
    omega
  refine shows_pointed ?_ ?_ ?_ ?_ ?_
  · rw [whole]
    exact known.areDigits
  · intro empty
    rw [empty] at start
    exact known.nonempty (List.head?_eq_none_iff.mp start.symm)
  · intro zero
    rw [start] at zero
    exact absurd zero known.leading
  · intro empty
    exact Nat.not_le.mpr within (List.drop_eq_nil_iff.mp empty)
  · rw [whole, power, known.denoted]
    exact has

/-- Zeros follow up to the point, and one more behind it. -/
private theorem shows_above (known : DigitsOf digits significand)
    (has : Decimal.HasRank { significand, exponent } rank) (beyond : 0 ≤ exponent) :
    Shows (digits ++ List.replicate ((exponent + digits.length).toNat - digits.length) '0' ++
      ['.', '0']) rank := by
  have zeros : (exponent + digits.length).toNat - digits.length = exponent.toNat := by omega
  have denoted : Nat.ofDigitChars 10 (digits ++ List.replicate exponent.toNat '0' ++ ['0']) 0 =
      significand * 10 ^ (exponent.toNat + 1) := by
    change Nat.ofDigitChars 10 (digits ++ List.replicate exponent.toNat '0' ++
      List.replicate 1 '0') 0 = _
    rw [Nat.ofDigitChars_append, Nat.ofDigitChars_append, Nat.ofDigitChars_replicate_zero,
      Nat.ofDigitChars_replicate_zero, known.denoted, ← Nat.mul_assoc, ← Nat.pow_add, Nat.mul_comm,
      Nat.add_comm]
  -- The zero behind the point is a digit too: ten times the digits, of tenths.
  have raised : -(['0'].length : Int) + (exponent.toNat + 1 : Nat) = exponent := by
    rw [List.length_singleton]
    omega
  obtain ⟨nonzero, rounded⟩ := has
  rw [zeros]
  refine shows_pointed ?_ (List.append_ne_nil_of_left_ne_nil known.nonempty _) ?_
    (List.cons_ne_nil _ _) ⟨?_, ?_⟩
  · exact (known.areDigits.append (Count.areDigits_zeros _)).append (Count.areDigits_zeros 1)
  · intro zero
    rw [List.head?_append, Option.or_of_isSome (List.isSome_head?.mpr known.nonempty)] at zero
    exact absurd zero known.leading
  · dsimp only
    rw [denoted]
    exact Nat.mul_ne_zero nonzero (Nat.ne_of_gt (Numeral.ten_pow_pos _))
  · dsimp only
    rw [denoted, Numeral.rank_mul_pow, raised]
    exact rounded

theorem shows_plain (known : DigitsOf digits significand)
    (has : Decimal.HasRank { significand, exponent } rank) :
    Shows (NumberLayout.plain true digits (exponent + digits.length)) rank := by
  unfold NumberLayout.plain
  by_cases below : exponent + digits.length ≤ 0
  · rw [if_pos below]
    exact shows_below known has below
  · rw [if_neg below]
    by_cases within : (exponent + digits.length).toNat < digits.length
    · rw [if_pos within]
      exact shows_between known has (by omega) within
    · rw [if_neg within]
      exact shows_above known has (by omega)

theorem shows_scientific (known : DigitsOf digits significand)
    (has : Decimal.HasRank { significand, exponent } rank) :
    Shows (NumberLayout.scientific digits (exponent + digits.length - 1)) rank := by
  have digitsAre := known.areDigits
  have leading := known.leading
  have denoted := known.denoted
  cases shape : digits with
  | nil => exact absurd shape known.nonempty
  | cons first rest =>
      rw [shape] at digitsAre leading denoted
      let literal : Literal :=
        { whole := [first]
          fraction := rest
          power? := some (exponent + (first :: rest).length - 1)
          digits := digitsAre
          nonempty := List.cons_ne_nil _ _
          leading := fun zero => absurd zero leading }
      have value : literal.decimal = { significand, exponent } := by
        have power : exponent + (first :: rest).length - 1 - rest.length = exponent := by
          rw [List.length_cons]
          omega
        exact literal.decimal_eq denoted power
      refine ⟨literal, ?_, Bool.and_false _, value ▸ has⟩
      cases rest with
      | nil => rfl
      | cons second others => rfl

end Layout

/-! ### Doubles and whole numbers -/

theorem shows_magnitude {rank : Nat} (positive : 0 < rank) (finite : rank < Double.infinityRank) :
    Shows (NumberLayout.json.magnitude rank) rank := by
  have has := (Decimal.hasRank_shortest .toEven positive finite).withoutTrailingZeros
  have known := digitsOf_toDigits (Nat.pos_of_ne_zero has.1)
  unfold NumberLayout.magnitude
  rw [if_neg (Nat.ne_of_gt positive)]
  dsimp only
  split
  · exact shows_plain known has
  · exact shows_scientific known has

def zeroLiteral : Literal where
  whole := ['0']
  fraction := ['0']
  power? := none
  digits := Count.areDigits_zeros 2
  nonempty := List.cons_ne_nil _ _
  leading := fun _ => rfl

theorem exists_literal_magnitude {rank : Nat} (finite : rank < Double.infinityRank) :
    ∃ literal : Literal, literal.characters = NumberLayout.json.magnitude rank ∧
      literal.isWhole = false ∧
      ∀ negative, (literal.numeral negative).toDouble = .ofRank negative rank := by
  rcases Nat.eq_zero_or_pos rank with zero | positive
  · subst zero
    exact ⟨zeroLiteral, rfl, rfl, fun _negative => rfl⟩
  · obtain ⟨literal, same, real, nonzero, rounded⟩ := shows_magnitude positive finite
    refine ⟨literal, same, real, fun negative => ?_⟩
    rw [Numeral.toDouble_eq nonzero]
    exact congrArg _ rounded

def wholeLiteral (magnitude : Nat) : Literal where
  whole := Nat.toDigits 10 magnitude
  fraction := []
  power? := none
  digits := by
    rw [List.append_nil]
    exact Count.areDigits_toDigits magnitude
  nonempty := Nat.toDigits_ne_nil
  leading := by
    intro zero
    rcases Nat.eq_zero_or_pos magnitude with none | positive
    · rw [none]
      rfl
    · exact absurd zero (Count.head?_toDigits_ne_zero positive)

theorem wholeLiteral_characters (magnitude : Nat) :
    (wholeLiteral magnitude).characters = Nat.toDigits 10 magnitude :=
  List.append_nil _

theorem wholeLiteral_numeral (magnitude : Nat) (negative : Bool) :
    (wholeLiteral magnitude).numeral negative =
      { negative, significand := magnitude, exponent := 0 } := by
  have denoted : Nat.ofDigitChars 10 (Nat.toDigits 10 magnitude ++ []) 0 = magnitude := by
    rw [List.append_nil, Nat.ofDigitChars_ten_toDigits]
  rw [Literal.numeral, (wholeLiteral magnitude).decimal_eq denoted rfl]
  rfl

/-- A number is a literal behind a sign or none, and this literal gives the
number back. -/
theorem exists_literal (number : Number) :
    ∃ negative, ∃ literal : Literal,
      number.text = (if negative then ['-'] else []) ++ literal.characters ∧
      ofNumeral? (literal.numeral negative) literal.isWhole = some number := by
  cases number with
  | whole value bounded =>
      refine ⟨decide (value < 0), wholeLiteral value.natAbs, ?_, ?_⟩
      · rw [wholeLiteral_characters]
        simp only [text, wholeText, decide_eq_true_eq]
      · have taken : ofInt? value = some (.whole value bounded) := dif_pos bounded
        rw [wholeLiteral_numeral, ofNumeral?]
        by_cases negative : value < 0
        · have nonzero : value.natAbs ≠ 0 := by omega
          have signed : -(value.natAbs : Int) = value := by omega
          simp only [wholeLiteral, Literal.isWhole, negative, nonzero, signed, taken,
            List.isEmpty_nil, Option.isNone_none, Bool.and_self, decide_true, if_true, if_false]
        · have signed : (value.natAbs : Int) = value := by omega
          simp only [wholeLiteral, Literal.isWhole, negative, signed, taken, List.isEmpty_nil,
            Option.isNone_none, Bool.and_self, decide_false, if_true, Bool.false_eq_true, if_false]
  | real value finite =>
      cases value with
      | nan => cases finite
      | signed negative rank bounded =>
          have within : rank < Double.infinityRank := of_decide_eq_true finite
          obtain ⟨literal, same, real, rounded⟩ := exists_literal_magnitude within
          have whole : Double.ofRank negative rank = .signed negative rank bounded := by
            unfold Double.ofRank
            simp only [Nat.min_eq_left bounded]
          refine ⟨negative, literal, ?_, ?_⟩
          · rw [same]
            rfl
          · rw [real, ofNumeral?, rounded, whole]
            exact dif_pos finite

theorem ofLiteral?_text (number : Number) : ofLiteral? number.text = some (some number) := by
  obtain ⟨negative, literal, written, given⟩ := exists_literal number
  have read := literal.ofUnsigned?_characters negative
  rw [given] at read
  rw [written]
  cases negative with
  | true => exact read
  | false =>
      obtain ⟨first, rest, starts, digit⟩ := literal.exists_first
      rw [starts] at read
      rw [if_neg Bool.false_ne_true, List.nil_append, starts, ofLiteral?]
      · exact read
      · intro tail minus
        injection minus with same _rest
        rw [same] at digit
        exact absurd digit (by decide)

theorem text_shape (number : Number) :
    ∃ first rest, number.text = first :: rest ∧ (first.isDigit || first == '-') = true ∧
      ∀ character ∈ rest, isLiteralCharacter character = true := by
  obtain ⟨negative, literal, written, _given⟩ := exists_literal number
  rw [written]
  cases negative with
  | true => exact ⟨'-', literal.characters, rfl, rfl, fun _ => literal.isLiteralCharacter_of_mem⟩
  | false =>
      obtain ⟨first, rest, starts, digit⟩ := literal.exists_first
      refine ⟨first, rest, starts, ?_, ?_⟩
      · rw [digit]
        rfl
      · intro character member
        apply literal.isLiteralCharacter_of_mem
        rw [starts]
        exact List.mem_cons_of_mem first member

end Number
end Scrutineer
