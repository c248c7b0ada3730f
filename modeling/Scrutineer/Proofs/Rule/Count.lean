import Scrutineer.Proofs.Comparison.Exactness
import Scrutineer.Proofs.Numeric.Value
import Scrutineer.Proofs.Rule.Reader

/-! A text is read as a count when it is an optional sign and decimal digits that
denote a signed word, and it is read as just that. A number is read as a count when
its exact value is whole. It is taken as it is within the range of signed words, and
beyond it the nearer end of the range is taken in its place. -/

namespace Scrutineer

namespace Count

/-! ### Texts of whole numbers -/

inductive Denotes : List Char → Int → Prop where
  | unsigned {digits : List Char} (some : digits ≠ []) (all : AreDigits digits) :
      Denotes digits (Nat.ofDigitChars 10 digits 0)
  | plus {digits : List Char} (some : digits ≠ []) (all : AreDigits digits) :
      Denotes ('+' :: digits) (Nat.ofDigitChars 10 digits 0)
  | minus {digits : List Char} (some : digits ≠ []) (all : AreDigits digits) :
      Denotes ('-' :: digits) (-(Nat.ofDigitChars 10 digits 0 : Nat))

theorem digitsValue?_eq_some_iff (characters : List Char) (value : Nat) :
    digitsValue? characters = some value ↔
      characters ≠ [] ∧ AreDigits characters ∧ Nat.ofDigitChars 10 characters 0 = value := by
  constructor
  · intro read
    have digits : characters ≠ [] ∧ AreDigits characters := by
      unfold digitsValue? at read
      split at read
      · cases read
      · rename_i regular
        rw [Bool.or_eq_true, not_or, List.isEmpty_iff, Bool.not_eq_true', Bool.not_eq_false,
          List.all_eq_true] at regular
        exact regular
    rw [digitsValue?_of_digits digits.1 digits.2] at read
    exact ⟨digits.1, digits.2, Option.some.inj read⟩
  · intro given
    rcases given with ⟨some, all, rfl⟩
    exact digitsValue?_of_digits some all

theorem wholeNumber?_eq_some_iff (characters : List Char) (whole : Int) :
    wholeNumber? characters = some whole ↔ Denotes characters whole := by
  constructor
  · intro read
    unfold wholeNumber? at read
    split at read
    all_goals
      obtain ⟨_unsigned, known, rfl⟩ := Option.map_eq_some_iff.mp read
      obtain ⟨value, held, same⟩ := Option.bind_eq_some_iff.mp known
      cases same
      obtain ⟨some, all, rfl⟩ := (digitsValue?_eq_some_iff _ value).mp held
    · exact .minus some all
    · exact .plus some all
    · exact .unsigned some all
  · intro denotes
    cases denotes with
    | unsigned some all => exact wholeNumber?_of_digits all (digitsValue?_of_digits some all)
    | plus some all => exact wholeNumber?_plus (digitsValue?_of_digits some all)
    | minus some all => exact wholeNumber?_minus (digitsValue?_of_digits some all)

/-! ### Whole numbers in range and beyond -/

theorem ofInt?_eq_some_iff (whole : Int) (count : Int64) :
    ofInt? whole = some count ↔ count.toInt = whole := by
  constructor
  · intro read
    unfold ofInt? at read
    split at read
    · rename_i within
      have below : whole < 2 ^ 63 := Int.lt_of_le_of_lt within.2 (by decide)
      rw [← Option.some.inj read]
      exact Int64.toInt_ofInt_of_le within.1 below
    · cases read
  · intro same
    rw [← same]
    exact ofInt?_toInt count

theorem ofText?_eq_some_iff (text : String) (count : Int64) :
    ofText? text = some count ↔ Denotes text.toList count.toInt := by
  rw [ofText?, Option.bind_eq_some_iff]
  simp only [wholeNumber?_eq_some_iff, ofInt?_eq_some_iff, exists_eq_right']

theorem clamp_eq_iff (whole : Int) (count : Int64) :
    clamp whole = count ↔ count.toInt = max least (min whole greatest) := by
  have ends : least ≤ greatest := by decide
  have lower : least ≤ max least (min whole greatest) := Int.le_max_left _ _
  have upper : max least (min whole greatest) < 2 ^ 63 :=
    Int.lt_of_le_of_lt (Int.max_le.mpr ⟨ends, Int.min_le_right _ _⟩) (by decide)
  rw [← Int64.toInt_inj, clamp, Int64.toInt_ofInt_of_le lower upper]
  exact eq_comm

/-- Past the range the nearest double is past it as well, or its end. -/
theorem clamp_wholePart_ofInt_of_gt {whole : Int} (high : greatest < whole)
    (bounded : whole < UInt64.size) :
    (Double.ofInt whole).isWhole = true ∧ clamp (Double.ofInt whole).wholePart = clamp whole := by
  have positive : 0 ≤ whole := Int.le_of_lt (Int.lt_trans (by decide) high)
  have magnitude : (whole.natAbs : Int) = whole := Int.natAbs_of_nonneg positive
  have nonzero : whole.natAbs ≠ 0 := by
    intro zero
    rw [← magnitude, zero] at high
    exact absurd high (by decide)
  have large : 2 ^ 63 ≤ whole.natAbs := by
    have past : (2 ^ 63 : Int) ≤ whole := high
    omega
  have small : whole.natAbs < UInt64.size := by omega
  have log : 63 ≤ whole.natAbs.log2 := (Nat.le_log2 nonzero).mpr large
  obtain ⟨isWhole, atLeast⟩ := Double.wholePart_ofInt_long positive small (by omega)
  have past : greatest < (Double.ofInt whole).wholePart := by
    have powers : 2 ^ 63 ≤ 2 ^ whole.natAbs.log2 := Nat.pow_le_pow_right (by decide) log
    have reached := Int.le_trans (Int.ofNat_le.mpr powers) atLeast
    exact reached
  exact ⟨isWhole, (clamp_of_gt past).trans (clamp_of_gt high).symm⟩

end Count

/-! ### Reading a count -/

namespace Slot

theorem countOfNumber?_eq_some_iff (number : Number) (count : Int64) :
    countOfNumber? number = some count ↔
      ∃ whole : Int, number.toRat = whole ∧ Count.clamp whole = count := by
  have nearest (value : Double) (finite : value.isFinite = true) :
      (if value.isWhole then some (Count.ofDouble value) else none) = some count ↔
        ∃ whole : Int, value.toRat = whole ∧ Count.clamp whole = count := by
    simp only [Double.toRat_eq_intCast_iff finite, Option.ite_none_right_eq_some, Option.some.injEq,
      Count.ofDouble, and_assoc, exists_and_left, exists_eq_left']
  cases number with
  | real value finite => exact nearest value finite
  | whole value bounded =>
      have exact : (∃ whole : Int, (Number.whole value bounded).toRat = whole ∧
          Count.clamp whole = count) ↔ Count.clamp value = count := by
        simp only [Number.toRat, Int.cast_inj, exists_eq_left']
      rw [exact]
      by_cases within : value ≤ Count.greatest
      · have known : Count.ofInt? value = some (Count.clamp value) := by
          rw [Count.ofInt?_eq_some_iff, Count.toInt_clamp bounded.1 within]
        simp only [countOfNumber?, known, Option.some_or, Option.some.injEq]
      · have high : Count.greatest < value := Int.not_le.mp within
        obtain ⟨isWhole, same⟩ := Count.clamp_wholePart_ofInt_of_gt high bounded.2
        have unknown : Count.ofInt? value = none := if_neg fun range => within range.2
        simp only [countOfNumber?, unknown, Option.none_or, Number.toDouble, isWhole, if_true,
          Count.ofDouble, same, Option.some.injEq]

def countOf? : Option Json → Option Int64
  | some (.number number) => countOfNumber? number
  | some (.text content) => Count.ofText? (Text.trim content)
  | _ => none

def countFault : Option Json → ParamFault
  | none | some .null => .missing
  | some value => .notAnInteger (shown value)

theorem reading_count (params : Members) (key : String) :
    Reading.slot count params key =
      match countOf? (Entries.find? key params) with
      | some known => { outcome := some known, errors := [] }
      | none =>
          { outcome := none
            errors := [{ key, fault := countFault (Entries.find? key params) }] } := by
  unfold Reading.slot read
  cases Entries.find? key params with
  | none => rfl
  | some value =>
      cases value with
      | number number =>
          unfold count countOf?
          dsimp only
          cases countOfNumber? number <;> rfl
      | text content =>
          unfold count countOf?
          dsimp only
          cases Count.ofText? (Text.trim content) <;> rfl
      | _ => rfl

end Slot

/-- How a stored value is read as a count. A number goes to the nearer end of the
range when it is beyond, while a text that is beyond is not read. -/
structure Reading.ReadsCount (reading : Reading Int64) (key : String) (value? : Option Json) :
    Prop where
  ofNumber : ∀ number, value? = some (.number number) → ∀ count,
    reading.outcome = some count ↔
      ∃ whole : Int, number.toRat = whole ∧ count.toInt = max Count.least (min whole Count.greatest)
  keepsNumber : ∀ number, value? = some (.number number) → ∀ whole : Int, number.toRat = whole →
    ((∃ count, reading.outcome = some count ∧ count.toInt = whole) ↔
      Count.least ≤ whole ∧ whole ≤ Count.greatest)
  ofText : ∀ content, value? = some (.text content) → ∀ count,
    reading.outcome = some count ↔ Count.Denotes (Text.trim content).toList count.toInt
  ofNothingElse : (∀ number, value? ≠ some (.number number)) →
    (∀ content, value? ≠ some (.text content)) → reading.outcome = none
  noErrorIfRead : ∀ count, reading.outcome = some count → reading.errors = []
  oneErrorElse : reading.outcome = none →
    reading.errors = [{ key, fault := Slot.countFault value? }]

namespace Slot

theorem outcome_count (params : Members) (key : String) :
    (Reading.slot count params key).outcome = countOf? (Entries.find? key params) := by
  rw [reading_count]
  cases countOf? (Entries.find? key params) <;> rfl

theorem readsCount_reading (params : Members) (key : String) :
    (Reading.slot count params key).ReadsCount key (Entries.find? key params) where
  ofNumber := by
    intro number stored count
    rw [outcome_count, stored, countOf?, countOfNumber?_eq_some_iff]
    simp only [Count.clamp_eq_iff]
  keepsNumber := by
    intro number stored whole same
    rw [outcome_count, stored, countOf?]
    simp only [countOfNumber?_eq_some_iff, same, Int.cast_inj, exists_eq_left']
    constructor
    · intro kept
      rw [← kept]
      exact ⟨(Count.clamp whole).minValue_le_toInt, (Count.clamp whole).toInt_le⟩
    · intro within
      exact Count.toInt_clamp within.1 within.2
  ofText := by
    intro content stored count
    rw [outcome_count, stored, countOf?, Count.ofText?_eq_some_iff]
  ofNothingElse := by
    intro noNumber noText
    rw [outcome_count]
    cases stored : Entries.find? key params with
    | none => rfl
    | some value =>
        cases value with
        | number number => exact absurd stored (noNumber number)
        | text content => exact absurd stored (noText content)
        | _ => rfl
  noErrorIfRead := by
    intro count read
    rw [outcome_count] at read
    rw [reading_count, read]
  oneErrorElse := by
    intro unread
    rw [outcome_count] at unread
    rw [reading_count, unread]

/-- Every parameter is read as a count by these rules, whatever has been noted
before: the whole numbers that are no signed words are not rejected but replaced,
and nothing else is. -/
theorem readsCount_count (reader : Reader) (key : String) :
    (reader.count key).Gives (Reading.slot count reader.params key) ∧
      (Reading.slot count reader.params key).ReadsCount key (Entries.find? key reader.params) :=
  ⟨reader.gives_count key, readsCount_reading reader.params key⟩

-- The first number past the range is read as the last one in it, though not as a text.
example :
    (Reading.slot count [("value", .ofNat 9223372036854775808)] "value").outcome =
        some Int64.maxValue ∧
      (Reading.slot count [("value", .text "9223372036854775808")] "value").outcome = none := by
  decide +kernel

end Slot
end Scrutineer
