import Scrutineer.Numeric.Int64

/-! A numeral is a sign, a run of digits read as one whole number, and a power of ten.
Two grammars produce numerals: that of free text (a digit on either side of the point
is enough, and the words for infinity and for no number are known) and that of JSON,
which lives with the JSON tokens. -/

namespace Scrutineer

structure Numeral where
  negative : Bool
  significand : Nat
  exponent : Int
deriving DecidableEq

namespace Numeral

/-- The nearest double. Powers of ten that are certainly out of range are not
computed: they give infinity or zero at once. -/
def toDouble (numeral : Numeral) : Double :=
  if numeral.significand = 0 then .ofRank numeral.negative 0
  else if 310 < numeral.exponent then .infinity numeral.negative
  else if numeral.exponent < -(numeral.significand.log2 + 330 : Int) then
    .ofRank numeral.negative 0
  else if 0 ≤ numeral.exponent then
    .nearest numeral.negative (numeral.significand * Nat.pow 10 numeral.exponent.toNat) 1
  else
    .nearest numeral.negative numeral.significand (Nat.pow 10 (-numeral.exponent).toNat)

def ofParts? (negative : Bool) (whole fraction : List Char) (exponent : Int) :
    Option Numeral :=
  (Count.digitsValue? (whole ++ fraction)).map fun significand =>
    { negative, significand, exponent := exponent - fraction.length }

def exponent? : List Char → Option Int
  | [] => some 0
  | mark :: rest =>
      if mark = 'e' ∨ mark = 'E' then Count.wholeNumber? rest else none

/-- The numeral of unsigned characters: digits, an optional point with digits,
an optional exponent. At least one digit stands beside the point. -/
def unsigned? (negative : Bool) (characters : List Char) : Option Numeral :=
  let whole := characters.takeWhile Char.isDigit
  match characters.dropWhile Char.isDigit with
  | '.' :: rest =>
      (exponent? (rest.dropWhile Char.isDigit)).bind
        (ofParts? negative whole (rest.takeWhile Char.isDigit))
  | rest => (exponent? rest).bind (ofParts? negative whole [])

end Numeral

namespace Double

/-- The double that unsigned characters denote: a numeral, infinity under one
of its two names, or the name of no number. -/
def ofUnsigned? (negative : Bool) (characters : List Char) : Option Double :=
  let name := characters.map Char.toLower
  if name = "inf".toList ∨ name = "infinity".toList then some (.infinity negative)
  else if name = "nan".toList then some .nan
  else (Numeral.unsigned? negative characters).map Numeral.toDouble

def ofText? (text : String) : Option Double :=
  match text.toList with
  | '-' :: rest => ofUnsigned? true rest
  | '+' :: rest => ofUnsigned? false rest
  | characters => ofUnsigned? false characters

end Double
end Scrutineer
