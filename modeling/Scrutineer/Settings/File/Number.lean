import Scrutineer.Json.Number
import Scrutineer.Json.Token

/-! Numbers in settings files. Whole numbers are decimal, or marked as hexadecimal,
octal or binary; decimal numbers have a fraction or an exponent. Underscores may stand
between digits. -/

namespace Scrutineer
namespace SettingsFile

def plainDigits? (characters : List Char) : Option (List Char) :=
  let groups := characters.splitOn '_'
  if groups.all fun group => !group.isEmpty && group.all Char.isAlphanum then
    some groups.flatten
  else none

def decimal? : List Char → Option Nat
  | '0' :: _ :: _ => none
  | characters => (plainDigits? characters).bind Count.digitsValue?

def digits? (base : Nat) (digits : List Char) : Option Nat :=
  digits.foldlM (fun value digit => do
    let next ← Token.hexDigit? digit
    if next < base then return value * base + next else none) 0

/-- A whole number in range: decimal with an optional sign, or marked as
hexadecimal, octal or binary. -/
def whole? (characters : List Char) : Option Int :=
  let value : Option Int :=
    match characters with
    | '-' :: rest => (decimal? rest).map fun value => -(value : Int)
    | '+' :: rest => (decimal? rest).map fun value => (value : Int)
    | '0' :: 'x' :: rest => ((plainDigits? rest).bind (digits? 16)).map Int.ofNat
    | '0' :: 'o' :: rest => ((plainDigits? rest).bind (digits? 8)).map Int.ofNat
    | '0' :: 'b' :: rest => ((plainDigits? rest).bind (digits? 2)).map Int.ofNat
    | rest => (decimal? rest).map fun value => (value : Int)
  value.filter fun known => Count.least ≤ known && known ≤ Count.greatest

def withoutUnderscores? (characters : List Char) : Option (List Char) :=
  let groups := characters.splitOn '_'
  if groups.tail.all (fun group => (group.head?.map Char.isDigit).getD false) &&
      groups.dropLast.all (fun group => (group.getLast?.map Char.isDigit).getD false) then
    some groups.flatten
  else none

/-- A finite decimal number with a fraction or an exponent, or one of the two
special values. -/
def real? (characters : List Char) : Option Double :=
  let (negative, unsigned) :=
    match characters with
    | '-' :: rest => (true, rest)
    | '+' :: rest => (false, rest)
    | rest => (false, rest)
  if unsigned = "inf".toList then some (.infinity negative)
  else if unsigned = "nan".toList then some .nan
  else
    match withoutUnderscores? unsigned with
    | none => none
    | some cleaned =>
        if Number.isUnsignedLiteral cleaned && !cleaned.all Char.isDigit then
          ((Numeral.unsigned? negative cleaned).map Numeral.toDouble).filter Double.isFinite
        else none

end SettingsFile
end Scrutineer
