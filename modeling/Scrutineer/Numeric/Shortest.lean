import Scrutineer.Numeric.Numeral

/-! The shortest decimal that reads back as a given double. Every finite double has an
exact decimal expansion. For one digit, two digits and so on, the expansion is cut
after that many digits; the cut and its upper neighbour are the two candidates of that
length. The first length with a candidate that reads back wins, and of two candidates
the nearer one. Should no length of at most seventeen digits do, the expansion itself
is the answer, so that the outcome always reads back. -/

namespace Scrutineer

inductive HalfwayRule where
  | toEven
  | upward
deriving DecidableEq

structure Decimal where
  significand : Nat
  exponent : Int
deriving DecidableEq

namespace Decimal

def ofRank (rank : Nat) : Decimal :=
  if rank < 2 * Double.binade then
    { significand := rank * Nat.pow 5 1074, exponent := -1074 }
  else
    let digits := Double.binade + rank % Double.binade
    let shift := rank / Double.binade - 1
    if 1074 ≤ shift then
      { significand := digits <<< (shift - 1074), exponent := 0 }
    else
      { significand := digits * Nat.pow 5 (1074 - shift), exponent := shift - (1074 : Int) }

def length (decimal : Decimal) : Nat :=
  (Nat.toDigits 10 decimal.significand).length

def readsBackAs (decimal : Decimal) (rank : Nat) : Bool :=
  Numeral.toDouble
    { negative := false, significand := decimal.significand, exponent := decimal.exponent }
    == .ofRank false rank

/-- Whether the upper of the two candidates around a cut is to be taken, given
what the cut left over out of one unit of its last digit. -/
def prefersUpper (rule : HalfwayRule) (lower leftover unit : Nat) : Bool :=
  match compare (2 * leftover) unit with
  | .lt => false
  | .gt => true
  | .eq => rule == .upward || lower % 2 == 1

/-- The candidate of a given number of digits that reads back as the rank and
is nearest to the exact value. -/
def candidate? (rule : HalfwayRule) (rank : Nat) (exact : Decimal) (length digits : Nat) :
    Option Decimal :=
  let unit := Nat.pow 10 (length - digits)
  let exponent := exact.exponent + (length - digits : Nat)
  let lower : Decimal := { significand := exact.significand / unit, exponent }
  let upper : Decimal := { significand := lower.significand + 1, exponent }
  let leftover := exact.significand % unit
  let lowerFits := lower.readsBackAs rank
  let upperFits := upper.readsBackAs rank
  if lowerFits && upperFits then
    some (if prefersUpper rule lower.significand leftover unit then upper else lower)
  else if lowerFits then some lower
  else if upperFits then some upper
  else none

def shortest (rule : HalfwayRule) (rank : Nat) : Decimal :=
  let exact := ofRank rank
  let length := exact.length
  ((List.range (min 17 length)).findSome? fun fewer =>
    candidate? rule rank exact length (fewer + 1)).getD exact

/-- Whole tens are moved from the digits to the exponent. The number of steps
is bounded by the number of digits. -/
def withoutTrailingZeros (decimal : Decimal) : Decimal :=
  let digits := (Nat.toDigits 10 decimal.significand).reverse
  let zeros := (digits.takeWhile (· == '0')).length
  if decimal.significand = 0 then { significand := 0, exponent := 0 }
  else
    { significand := decimal.significand / Nat.pow 10 zeros
      exponent := decimal.exponent + zeros }

end Decimal
end Scrutineer
