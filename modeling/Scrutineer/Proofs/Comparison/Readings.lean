import Scrutineer.Proofs.Numeric.Nearest
import Scrutineer.Proofs.Rule.Count
import Scrutineer.Proofs.Rule.Reading
import Scrutineer.Proofs.Text.Spelling

/-! A scalar is read as a count when it is read as a finite double. A text of digits
is both, and the count is then taken from the digits, whatever the double next to them
is. Any other text has a count only by way of its double. Up to fifty-three binary
digits the two ways come to the same count: the double without its fraction. -/

namespace Scrutineer

/-! ### Digits as doubles -/

namespace Numeral

theorem toDouble_whole (negative : Bool) (significand : Nat) :
    toDouble { negative, significand, exponent := 0 } = .nearest negative significand 1 := by
  by_cases zero : significand = 0
  · subst zero
    have least : Double.nearestRank 0 1 = 0 := Double.nearestRank_eq_zero (by decide)
    rw [Double.nearest, least]
    rfl
  · have power : significand * 10 ^ (0 : Int).toNat = significand := Nat.mul_one significand
    rw [toDouble_eq zero, rank, if_pos le_rfl, power]
    rfl

theorem unsigned?_of_digits (negative : Bool) {digits : List Char} (nonempty : digits ≠ [])
    (all : Count.AreDigits digits) :
    unsigned? negative digits =
      some { negative, significand := Nat.ofDigitChars 10 digits 0, exponent := 0 } := by
  have front : digits.takeWhile Char.isDigit = digits := by
    rw [← List.append_nil digits, List.takeWhile_append_of_pos all, List.append_nil]
    exact List.append_nil digits
  have rest : digits.dropWhile Char.isDigit = [] := by
    rw [← List.append_nil digits, List.dropWhile_append_of_pos all]
    rfl
  have parts : ofParts? negative digits [] 0 =
      some { negative, significand := Nat.ofDigitChars 10 digits 0, exponent := 0 } := by
    rw [ofParts?, List.append_nil, Count.digitsValue?_of_digits nonempty all]
    rfl
  unfold unsigned?
  dsimp only
  rw [front, rest]
  exact parts

end Numeral

namespace Double

theorem map_toLower_ne_of_digits {digits : List Char} (nonempty : digits ≠ [])
    (all : Count.AreDigits digits) {initial : Char} {rest : List Char}
    (letter : 58 ≤ initial.toNat) : digits.map Char.toLower ≠ initial :: rest := by
  cases digits with
  | nil => exact absurd rfl nonempty
  | cons first others =>
      intro same
      have upper := ((Char.isDigit_iff_toNat first).mp (all first List.mem_cons_self)).2
      have code := Text.toNat_toLower first
      have head : first.toLower = initial := (List.cons.inj same).1
      rw [head] at code
      omega

theorem ofUnsigned?_of_digits (negative : Bool) {digits : List Char} (nonempty : digits ≠ [])
    (all : Count.AreDigits digits) :
    ofUnsigned? negative digits =
      some (.nearest negative (Nat.ofDigitChars 10 digits 0) 1) := by
  have named {initial : Char} {rest : List Char} (letter : 58 ≤ initial.toNat) :
      digits.map Char.toLower ≠ initial :: rest :=
    map_toLower_ne_of_digits nonempty all letter
  have infinite : ¬(digits.map Char.toLower = "inf".toList ∨
      digits.map Char.toLower = "infinity".toList) := by
    rintro (short | long)
    · exact named (by decide) short
    · exact named (by decide) long
  have noNumber : digits.map Char.toLower ≠ "nan".toList := named (by decide)
  unfold ofUnsigned?
  dsimp only
  rw [if_neg infinite, if_neg noNumber, Numeral.unsigned?_of_digits negative nonempty all,
    Option.map_some, Numeral.toDouble_whole]

theorem ofText?_of_denotes {text : String} {whole : Int}
    (denotes : Count.Denotes text.toList whole) :
    ∃ negative magnitude, ofText? text = some (.nearest negative magnitude 1) ∧
      whole = if negative then -(magnitude : Int) else magnitude := by
  unfold ofText?
  generalize text.toList = characters at denotes
  cases denotes with
  | plus some all => exact ⟨false, _, ofUnsigned?_of_digits false some all, rfl⟩
  | minus some all => exact ⟨true, _, ofUnsigned?_of_digits true some all, rfl⟩
  | unsigned some all =>
      refine ⟨false, _, ?_, rfl⟩
      split
      · exact absurd (all '-' List.mem_cons_self) (Count.not_isDigit_of_sign (.inl rfl))
      · exact absurd (all '+' List.mem_cons_self) (Count.not_isDigit_of_sign (.inr rfl))
      · exact ofUnsigned?_of_digits false some all

theorem nearestRank_lt_infinityRank {magnitude : Nat} (bounded : magnitude < UInt64.size) :
    nearestRank magnitude 1 < infinityRank :=
  (isFinite_ofRank_iff _ _).mp (isFinite_ofInt (magnitude : Int) bounded)

/-- A number of at most fifty-three digits is its own nearest double, and those
of more digits do not come below. -/
theorem wholePart_nearest_of_small (negative : Bool) {magnitude : Nat}
    (bounded : magnitude < UInt64.size)
    (small : |(nearest negative magnitude 1).toRat| < 2 ^ 53) :
    (nearest negative magnitude 1).wholePart =
      if negative then -(magnitude : Int) else magnitude := by
  have limit : ((2 ^ 53 : Nat) : ℚ) = 2 ^ 53 := by rw [Nat.cast_pow, Nat.cast_ofNat]
  rw [← limit] at small
  have finite := nearestRank_lt_infinityRank bounded
  have units := (abs_toRat_ofRank_lt_iff negative finite (2 ^ 53)).mp small
  by_cases long : 53 ≤ magnitude.log2
  · exfalso
    obtain ⟨kept, low, _finite, same⟩ := nearestRank_long bounded (by omega)
    have power : 2 ^ 1 ≤ 2 ^ (magnitude.log2 - 52) := Nat.pow_le_pow_right Nat.two_pos (by omega)
    have product : 2 ^ 53 ≤ kept * 2 ^ (magnitude.log2 - 52) :=
      calc 2 ^ 53
        _ = binade * 2 ^ 1 := by decide
        _ ≤ kept * 2 ^ (magnitude.log2 - 52) := Nat.mul_le_mul low power
    have scaled := Nat.mul_le_mul_right unitsPerOne product
    rw [same] at units
    exact absurd units (Nat.not_lt.mpr scaled)
  · obtain ⟨rank, within, same⟩ := exists_rank_of_fits bounded (fitsDigits_of_short (by omega))
    have rounded : nearestRank magnitude 1 = rank := by
      apply nearestRank_of_units Nat.one_pos
      rw [same, Nat.mul_one]
    rw [nearest, rounded, wholePart_ofRank negative within, same,
      Nat.mul_div_cancel _ unitsPerOne_pos]

end Double

/-! ### Counts and doubles -/

theorem Count.toInt_ofDouble_of_small {number : Double} (small : |number.toRat| < 2 ^ 53) :
    (ofDouble number).toInt = Double.cutTowardsZero number.toRat := by
  have limit : ((2 ^ 53 : Int) : ℚ) = 2 ^ 53 := by rw [Int.cast_pow, Int.cast_ofNat]
  rw [← limit] at small
  obtain ⟨above, below⟩ := Double.cutTowardsZero_within small
  have lower : least ≤ -2 ^ 53 := by decide
  have upper : 2 ^ 53 ≤ greatest := by decide
  rw [ofDouble, Double.wholePart_eq_cutTowardsZero]
  exact toInt_clamp (by omega) (by omega)

namespace Scalar

theorem countOfDouble?_eq_some_iff (number : Double) (count : Int64) :
    countOfDouble? number = some count ↔
      number.isFinite = true ∧ Count.ofDouble number = count := by
  unfold countOfDouble?
  rw [Option.ite_none_right_eq_some, Option.some.injEq]

theorem asCount?_cases (scalar : Scalar) :
    (∃ count negative magnitude, scalar.asCount? = some count ∧
      scalar.asDouble? = some (.nearest negative magnitude 1) ∧
      count.toInt = if negative then -(magnitude : Int) else magnitude) ∨
    scalar.asCount? = scalar.asDouble?.bind countOfDouble? := by
  cases scalar with
  | number value => exact .inr rfl
  | truth value => exact .inr rfl
  | text content =>
      unfold asCount? asDouble?
      dsimp only
      cases known : Count.ofText? (Text.trim content) with
      | none => exact .inr rfl
      | some count =>
          have denotes := (Count.ofText?_eq_some_iff _ count).mp known
          obtain ⟨negative, magnitude, read, same⟩ := Double.ofText?_of_denotes denotes
          exact .inl ⟨count, negative, magnitude, rfl, read, same⟩

/-- How the two readings of a scalar go together: there is a count when there is
a finite double, and it is that double without its fraction as far as doubles
keep all whole numbers. -/
structure ReadsAlike (scalar : Scalar) : Prop where
  present : scalar.asCount?.isSome = true ↔
    ∃ number, scalar.asDouble? = some number ∧ number.isFinite = true
  cut : ∀ number, scalar.asDouble? = some number → number.isFinite = true →
    |number.toRat| < 2 ^ 53 →
      ∃ count, scalar.asCount? = some count ∧ count.toInt = Double.cutTowardsZero number.toRat

theorem readsAlike (scalar : Scalar) : scalar.ReadsAlike := by
  rcases scalar.asCount?_cases with ⟨count, negative, magnitude, known, read, same⟩ | taken
  · have bounded : magnitude < UInt64.size := by
      have size := Count.natAbs_toInt_lt count
      rw [same] at size
      split at size <;> omega
    have finite : (Double.nearest negative magnitude 1).isFinite = true :=
      (Double.isFinite_ofRank_iff _ _).mpr (Double.nearestRank_lt_infinityRank bounded)
    constructor
    · rw [known, read]
      exact iff_of_true rfl ⟨_, rfl, finite⟩
    · intro number other _finite small
      cases read.symm.trans other
      refine ⟨count, known, ?_⟩
      rw [same, ← Double.wholePart_eq_cutTowardsZero,
        Double.wholePart_nearest_of_small negative bounded small]
  · constructor
    · rw [taken, Option.isSome_iff_exists]
      simp only [Option.bind_eq_some_iff, countOfDouble?_eq_some_iff]
      constructor
      · rintro ⟨_count, number, read, finite, _same⟩
        exact ⟨number, read, finite⟩
      · rintro ⟨number, read, finite⟩
        exact ⟨_, number, read, finite, rfl⟩
    · intro number read finite small
      refine ⟨Count.ofDouble number, ?_, Count.toInt_ofDouble_of_small small⟩
      rw [taken, read, Option.bind_some, countOfDouble?_eq_some_iff]
      exact ⟨finite, rfl⟩

-- The first whole number that doubles skip: the count keeps it and the double does not.
example :
    (Scalar.text "9007199254740993").asCount? = some 9007199254740993 ∧
      (Scalar.text "9007199254740993").asDouble? = some (.ofInt 9007199254740992) := by
  decide +kernel

theorem readsAs_count_iff_double (scalar : Scalar) :
    scalar.ReadsAs .count ↔ scalar.ReadsAs .double := by
  have present := scalar.readsAlike.present
  change scalar.asCount?.isSome = true ↔ (scalar.asDouble?.filter Double.isFinite).isSome = true
  rw [present, Option.isSome_iff_exists]
  simp only [Option.filter_eq_some_iff]

end Scalar

namespace Slot

theorem reference_count_iff_double (value : Json) (made : Scalar) :
    reference .count value = .ok made ↔ reference .double value = .ok made := by
  rw [reference_eq_ok_iff, reference_eq_ok_iff, made.readsAs_count_iff_double]

end Slot

/-- Every scalar has the two readings together, and so a parameter to compare
with is accepted as a count exactly when it is accepted as a double, and it is
the same scalar then. -/
theorem Scalar.counts_and_doubles_agree :
    (∀ scalar : Scalar, scalar.ReadsAlike) ∧
      ∀ (reader : Reader) (key : String),
        (∀ form, (reader.reference form key).Gives
          (Reading.slot (Slot.reference form) reader.params key)) ∧
        (Reading.slot (Slot.reference .count) reader.params key).outcome =
          (Reading.slot (Slot.reference .double) reader.params key).outcome := by
  refine ⟨readsAlike, ?_⟩
  intro reader key
  refine ⟨fun form => reader.gives_reference form key, ?_⟩
  apply Option.ext
  intro made
  rw [Reading.outcome_slot_eq_some_iff, Reading.outcome_slot_eq_some_iff, Slot.read_eq_ok_iff,
    Slot.read_eq_ok_iff]
  simp only [Slot.reference_count_iff_double]

end Scrutineer
