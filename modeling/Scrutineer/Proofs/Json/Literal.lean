import Scrutineer.Json.Number
import Scrutineer.Proofs.Numeric.Shortest

/-! A literal is put together from digits in front of the point, digits behind it and
a power of ten, and reading it takes it apart in the same way. The plain and the
scientific form of a double are such literals, and what they denote is rounded to that
double. -/

namespace Scrutineer
namespace Number

/-- The parts of an unsigned literal: digits before and behind the point, which
is left out when there are none behind it, and a power of ten. -/
structure Literal where
  whole : List Char
  fraction : List Char
  power? : Option Int
  digits : Count.AreDigits (whole ++ fraction)
  nonempty : whole ≠ []
  leading : whole.head? = some '0' → whole = ['0']

namespace Literal

variable (literal : Literal)

def powerText : Option Int → List Char
  | none => []
  | some power => 'e' :: (if power < 0 then '-' else '+') :: Nat.toDigits 10 power.natAbs

def fractionText : List Char → List Char
  | [] => []
  | first :: rest => '.' :: first :: rest

theorem fractionText_of_ne_nil {fraction : List Char} (nonempty : fraction ≠ []) :
    fractionText fraction = '.' :: fraction := by
  cases fraction with
  | nil => exact absurd rfl nonempty
  | cons first rest => rfl

def characters : List Char :=
  literal.whole ++ (fractionText literal.fraction ++ powerText literal.power?)

/-- What is denoted: each digit behind the point takes one from the power. -/
def decimal : Decimal :=
  { significand := Nat.ofDigitChars 10 (literal.whole ++ literal.fraction) 0
    exponent := literal.power?.getD 0 - literal.fraction.length }

def numeral (negative : Bool) : Numeral :=
  { negative, significand := literal.decimal.significand, exponent := literal.decimal.exponent }

theorem decimal_eq {significand : Nat} {exponent : Int}
    (denoted : Nat.ofDigitChars 10 (literal.whole ++ literal.fraction) 0 = significand)
    (raised : literal.power?.getD 0 - literal.fraction.length = exponent) :
    literal.decimal = { significand, exponent } := by
  rw [decimal, denoted, raised]

def isWhole : Bool :=
  literal.fraction.isEmpty && literal.power?.isNone

theorem wholeDigits : Count.AreDigits literal.whole :=
  fun character member => literal.digits character (List.mem_append_left _ member)

theorem fractionDigits : Count.AreDigits literal.fraction :=
  fun character member => literal.digits character (List.mem_append_right _ member)

/-! ### Reading the parts -/

theorem exponent?_powerText (power? : Option Int) :
    Numeral.exponent? (powerText power?) = some (power?.getD 0) := by
  cases power? with
  | none => rfl
  | some power =>
      have magnitude := Count.digitsValue?_toDigits power.natAbs
      change Count.wholeNumber? ((if power < 0 then '-' else '+') ::
        Nat.toDigits 10 power.natAbs) = some power
      by_cases negative : power < 0
      · rw [if_pos negative, Count.wholeNumber?_minus magnitude,
          Int.ofNat_natAbs_of_nonpos (Int.le_of_lt negative), Int.neg_neg]
      · rw [if_neg negative, Count.wholeNumber?_plus magnitude,
          Int.natAbs_of_nonneg (Int.not_lt.mp negative)]

theorem takeWhile_digits_append {digits rest : List Char} (areDigits : Count.AreDigits digits)
    (stops : rest.takeWhile Char.isDigit = []) :
    (digits ++ rest).takeWhile Char.isDigit = digits := by
  rw [List.takeWhile_append_of_pos areDigits, stops, List.append_nil]

theorem takeWhile_powerText (power? : Option Int) :
    (powerText power?).takeWhile Char.isDigit = [] := by
  cases power? with
  | none => rfl
  | some power => rfl

theorem dropWhile_powerText (power? : Option Int) :
    (powerText power?).dropWhile Char.isDigit = powerText power? := by
  cases power? with
  | none => rfl
  | some power => rfl

theorem takeWhile_fractionText (fraction : List Char) (power? : Option Int) :
    (fractionText fraction ++ powerText power?).takeWhile Char.isDigit = [] := by
  cases fraction with
  | nil => exact takeWhile_powerText power?
  | cons first rest => rfl

theorem dropWhile_fractionText (fraction : List Char) (power? : Option Int) :
    (fractionText fraction ++ powerText power?).dropWhile Char.isDigit =
      fractionText fraction ++ powerText power? := by
  cases fraction with
  | nil => exact dropWhile_powerText power?
  | cons first rest => rfl

theorem takeWhile_characters : literal.characters.takeWhile Char.isDigit = literal.whole :=
  takeWhile_digits_append literal.wholeDigits (takeWhile_fractionText _ _)

theorem dropWhile_characters : literal.characters.dropWhile Char.isDigit =
    fractionText literal.fraction ++ powerText literal.power? := by
  rw [characters, List.dropWhile_append_of_pos literal.wholeDigits, dropWhile_fractionText]

theorem ofParts?_parts (negative : Bool) :
    Numeral.ofParts? negative literal.whole literal.fraction (literal.power?.getD 0) =
      some (literal.numeral negative) := by
  have nonempty : literal.whole ++ literal.fraction ≠ [] :=
    List.append_ne_nil_of_left_ne_nil literal.nonempty _
  rw [Numeral.ofParts?, Count.digitsValue?_of_digits nonempty literal.digits]
  rfl

theorem unsigned?_characters (negative : Bool) :
    Numeral.unsigned? negative literal.characters = some (literal.numeral negative) := by
  have parts := literal.ofParts?_parts negative
  have fractionDigits := literal.fractionDigits
  unfold Numeral.unsigned?
  dsimp only
  rw [takeWhile_characters, dropWhile_characters]
  generalize literal.fraction = fraction at parts fractionDigits ⊢
  cases fraction with
  | nil =>
      -- The text of a power does not start with a point.
      have raised := exponent?_powerText literal.power?
      have unpointed : (Numeral.exponent? (powerText literal.power?)).bind
          (Numeral.ofParts? negative literal.whole []) = some (literal.numeral negative) := by
        rw [raised]
        exact parts
      generalize literal.power? = power? at unpointed ⊢
      cases power? with
      | none => exact unpointed
      | some power => exact unpointed
  | cons first rest =>
      change ((Numeral.exponent? ((first :: rest ++ powerText literal.power?).dropWhile
        Char.isDigit)).bind (Numeral.ofParts? negative literal.whole
          ((first :: rest ++ powerText literal.power?).takeWhile Char.isDigit))) = _
      rw [takeWhile_digits_append fractionDigits (takeWhile_powerText _),
        List.dropWhile_append_of_pos fractionDigits, dropWhile_powerText, exponent?_powerText,
        Option.bind_some, parts]

theorem isUnsignedLiteral_characters : isUnsignedLiteral literal.characters = true := by
  unfold isUnsignedLiteral
  rw [takeWhile_characters, dropWhile_characters, Bool.and_eq_true]
  constructor
  · have nonempty := literal.nonempty
    have leading := literal.leading
    split
    · rename_i empty
      exact absurd empty nonempty
    · rename_i next rest longer
      rw [longer] at leading
      cases leading rfl
    · rfl
  · have fractionDigits := literal.fractionDigits
    cases fraction : literal.fraction with
    | nil =>
        cases literal.power? with
        | none => rfl
        | some power => rfl
    | cons first rest =>
        rw [fraction] at fractionDigits
        exact fractionDigits first List.mem_cons_self

theorem all_isDigit_characters : literal.characters.all Char.isDigit = literal.isWhole := by
  have whole : literal.whole.all Char.isDigit = true := List.all_eq_true.mpr literal.wholeDigits
  rw [characters, isWhole, List.all_append, whole, Bool.true_and]
  cases literal.fraction with
  | nil =>
      cases literal.power? with
      | none => rfl
      | some power => rfl
  | cons first rest => rfl

theorem ofUnsigned?_characters (negative : Bool) :
    ofUnsigned? negative literal.characters =
      some (ofNumeral? (literal.numeral negative) literal.isWhole) := by
  rw [ofUnsigned?, if_pos literal.isUnsignedLiteral_characters, unsigned?_characters,
    all_isDigit_characters, Option.map_some]

theorem isLiteralCharacter_of_isDigit {character : Char} (digit : character.isDigit = true) :
    isLiteralCharacter character = true := by
  unfold isLiteralCharacter
  rw [digit]
  rfl

theorem isLiteralCharacter_of_mem_powerText {power? : Option Int} {character : Char}
    (member : character ∈ powerText power?) : isLiteralCharacter character = true := by
  cases power? with
  | none => cases member
  | some power =>
      rcases List.mem_cons.mp member with mark | member
      · rw [mark]
        decide
      · rcases List.mem_cons.mp member with sign | digit
        · rw [sign]
          split <;> decide
        · exact isLiteralCharacter_of_isDigit (Count.areDigits_toDigits _ character digit)

theorem isLiteralCharacter_of_mem {character : Char} (member : character ∈ literal.characters) :
    isLiteralCharacter character = true := by
  rcases List.mem_append.mp member with whole | member
  · exact isLiteralCharacter_of_isDigit (literal.wholeDigits character whole)
  · rcases List.mem_append.mp member with fraction | power
    · have fractionDigits := literal.fractionDigits
      generalize literal.fraction = digits at fraction fractionDigits
      cases digits with
      | nil => cases fraction
      | cons first rest =>
          rcases List.mem_cons.mp fraction with point | digit
          · rw [point]
            decide
          · exact isLiteralCharacter_of_isDigit (fractionDigits character digit)
    · exact isLiteralCharacter_of_mem_powerText power

theorem exists_first : ∃ first rest, literal.characters = first :: rest ∧
    first.isDigit = true := by
  have digits := literal.wholeDigits
  unfold characters
  cases whole : literal.whole with
  | nil => exact absurd whole literal.nonempty
  | cons first rest =>
      rw [whole] at digits
      exact ⟨first, _, rfl, digits first List.mem_cons_self⟩

end Literal
end Number
end Scrutineer
