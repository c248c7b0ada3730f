import Scrutineer.Numeric.Layout

/-! A number is a whole number of at most sixty-four bits, signed or not, or else a
finite double. A literal without fraction and exponent that fits is whole; minus zero and
everything else goes to the nearest double, and a literal whose nearest double is
infinite denotes no number.

That literals go to the nearest double, so that doubles read back from their text, is
assumed of the parser. One that multiplies the digits by a rounded power of ten can be a
step away from it, as in `9007199254740993e1`. -/

namespace Scrutineer

inductive Number where
  | whole (value : Int) (bounded : Int64.minValue.toInt ≤ value ∧ value < UInt64.size)
  | real (value : Double) (finite : value.isFinite = true)
deriving DecidableEq

namespace Number

def toDouble : Number → Double
  | .whole value _ => .ofInt value
  | .real value _ => value

def ofDouble? (value : Double) : Option Number :=
  if finite : value.isFinite = true then some (.real value finite) else none

def ofInt? (value : Int) : Option Number :=
  if bounded : Int64.minValue.toInt ≤ value ∧ value < UInt64.size then some (.whole value bounded) else none

def ofWord (count : UInt32) : Number :=
  .whole count.toNat
    ⟨Int.le_trans (by decide) (Int.natCast_nonneg count.toNat),
      Int.ofNat_lt.mpr (Nat.lt_trans count.toNat_lt_size (by decide))⟩

def wholeText (value : Int) : List Char :=
  (if value < 0 then ['-'] else []) ++ Nat.toDigits 10 value.natAbs

def text : Number → List Char
  | .whole value _ => wholeText value
  | .real .nan _ => []
  | .real (.signed negative rank _) _ => NumberLayout.json.signed negative rank

def isLiteralCharacter (character : Char) : Bool :=
  character.isDigit || character == '-' || character == '+' || character == '.' ||
    character == 'e' || character == 'E'

/-- The form of an unsigned literal up to the exponent: digits without a
leading zero, and a digit behind a point. -/
def isUnsignedLiteral (characters : List Char) : Bool :=
  (match characters.takeWhile Char.isDigit with
    | [] => false
    | '0' :: _ :: _ => false
    | _ => true) &&
  (match characters.dropWhile Char.isDigit with
    | '.' :: next :: _ => next.isDigit
    | '.' :: [] => false
    | _ => true)

/-- The number of a numeral; nothing when its nearest double is infinite. -/
def ofNumeral? (numeral : Numeral) (isWhole : Bool) : Option Number :=
  let wholeNumber :=
    if isWhole then
      if numeral.negative then
        if numeral.significand = 0 then none
        else ofInt? (-(numeral.significand : Int))
      else ofInt? numeral.significand
    else none
  match wholeNumber with
  | some number => some number
  | none => ofDouble? numeral.toDouble

/-- The number of unsigned literal characters: nothing when they are not a
literal, and nothing inside when the literal is out of range. -/
def ofUnsigned? (negative : Bool) (characters : List Char) : Option (Option Number) :=
  if isUnsignedLiteral characters then
    (Numeral.unsigned? negative characters).map fun numeral =>
      ofNumeral? numeral (characters.all Char.isDigit)
  else none

def ofLiteral? : List Char → Option (Option Number)
  | '-' :: rest => ofUnsigned? true rest
  | characters => ofUnsigned? false characters

end Number
end Scrutineer
