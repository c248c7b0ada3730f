import Scrutineer.Numeric.Shortest

/-! How doubles are written. Messages write a number without an exponent and without a
trailing fraction of zero. JSON text always shows a fraction, and moves to an exponent
where the plain form would be long. Both take the digits of the shortest decimal that
reads back. -/

namespace Scrutineer

structure NumberLayout where
  halfway : HalfwayRule
  showsFraction : Bool
  isPlain : Int → Bool

namespace NumberLayout

/-- In messages a number has no exponent, and no fraction unless it needs one. -/
def message : NumberLayout where
  halfway := .upward
  showsFraction := false
  isPlain := fun _ => true

/-- In JSON a number has a fraction, and an exponent outside of the powers from
minus five to fifteen. -/
def json : NumberLayout where
  halfway := .toEven
  showsFraction := true
  isPlain := fun leading => -5 ≤ leading && leading ≤ 15

/-- Digits with the point after the given number of them, filled up with zeros
on either side where the point lies outside. -/
def plain (showsFraction : Bool) (digits : List Char) (point : Int) : List Char :=
  if point ≤ 0 then
    '0' :: '.' :: (List.replicate (-point).toNat '0' ++ digits)
  else if point.toNat < digits.length then
    digits.take point.toNat ++ '.' :: digits.drop point.toNat
  else
    digits ++ List.replicate (point.toNat - digits.length) '0' ++
      (if showsFraction then ['.', '0'] else [])

def scientific (digits : List Char) (leading : Int) : List Char :=
  let mantissa :=
    match digits with
    | first :: second :: rest => first :: '.' :: second :: rest
    | _ => digits
  mantissa ++ 'e' :: (if leading < 0 then '-' else '+') :: Nat.toDigits 10 leading.natAbs

def magnitude (layout : NumberLayout) (rank : Nat) : List Char :=
  if rank = 0 then '0' :: (if layout.showsFraction then ['.', '0'] else [])
  else
    let decimal := (Decimal.shortest layout.halfway rank).withoutTrailingZeros
    let digits := Nat.toDigits 10 decimal.significand
    let point := decimal.exponent + digits.length
    if layout.isPlain (point - 1) then plain layout.showsFraction digits point
    else scientific digits (point - 1)

def signed (layout : NumberLayout) (negative : Bool) (rank : Nat) : List Char :=
  (if negative then ['-'] else []) ++ layout.magnitude rank

end NumberLayout

namespace Double

def message : Double → String
  | .nan => "NaN"
  | .signed negative rank _ =>
      if rank = infinityRank then (if negative then "-inf" else "inf")
      else String.ofList (NumberLayout.message.signed negative rank)

end Double
end Scrutineer
