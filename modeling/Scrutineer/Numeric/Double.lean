/-! The non-negative doubles form one increasing sequence: zero, the subnormal
numbers, the normal numbers, infinity. A double is represented by a sign and its place
in that sequence, or is the one value that is not a number. Order, rounding and
truncation are then exact statements about natural numbers; no machine arithmetic is
involved. -/

namespace Scrutineer

def Double.binade : Nat := 1 <<< 52

def Double.infinityRank : Nat := 2047 * Double.binade

/-- A double is a signed place in the sequence of the non-negative doubles, or
not a number. -/
inductive Double where
  | nan
  | signed (negative : Bool) (rank : Nat) (bounded : rank ≤ Double.infinityRank)
deriving DecidableEq

namespace Double

/-- The unit in which every finite double is a whole number is the reciprocal
of this one. -/
def unitsPerOne : Nat := 1 <<< 1074

/-- The magnitude at a rank, counted in units of the smallest positive double.
At the rank of infinity it is the first power of two that is out of range. -/
def units (rank : Nat) : Nat :=
  if rank < 2 * binade then rank
  else (binade + rank % binade) <<< (rank / binade - 1)

def rankBelow (magnitude : Nat) : Nat :=
  if magnitude < 2 * binade then magnitude
  else
    let shift := magnitude.log2 - 52
    shift * binade + magnitude >>> shift

def ofRank (negative : Bool) (rank : Nat) : Double :=
  .signed negative (min rank infinityRank) (Nat.min_le_right rank infinityRank)

/-- The rank below a quotient or the next one, by how the quotient is ordered
to the middle between the two. In the middle it is the even one. -/
def chooseRank (order : Ordering) (below : Nat) : Nat :=
  match order with
  | .lt => below
  | .gt => below + 1
  | .eq => if below % 2 = 0 then below else below + 1

def nearestRank (numerator denominator : Nat) : Nat :=
  let below := rankBelow (numerator * unitsPerOne / denominator)
  let middle := (units below + units (below + 1)) * denominator
  chooseRank (compare (2 * (numerator * unitsPerOne)) middle) below

def nearest (negative : Bool) (numerator denominator : Nat) : Double :=
  ofRank negative (nearestRank numerator denominator)

def ofInt (value : Int) : Double :=
  nearest (value < 0) value.natAbs 1

def zero : Double := ofRank false 0

def one : Double := ofInt 1

def infinity (negative : Bool) : Double := ofRank negative infinityRank

def isFinite : Double → Bool
  | .nan => false
  | .signed _ rank _ => rank < infinityRank

/-- The place of a number on the line of all doubles; both zeros have place
zero and the value that is not a number has none. -/
def place? : Double → Option Int
  | .nan => none
  | .signed negative rank _ => some (if negative then -(rank : Int) else rank)

def order? (left right : Double) : Option Ordering :=
  match left.place?, right.place? with
  | some leftPlace, some rightPlace => some (compare leftPlace rightPlace)
  | _, _ => none

/-- The whole part, towards zero. The value that is not a number counts as
zero, and an infinity as the first power of two that is out of range. -/
def wholePart : Double → Int
  | .nan => 0
  | .signed negative rank _ =>
      let whole : Int := (units rank / unitsPerOne : Nat)
      if negative then -whole else whole

def isWhole : Double → Bool
  | .nan => false
  | .signed _ rank _ => rank < infinityRank && units rank % unitsPerOne == 0

end Double
end Scrutineer
