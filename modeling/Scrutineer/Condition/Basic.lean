import Scrutineer.Comparison.Comparator
import Scrutineer.Comparison.SetMatcher
import Scrutineer.Craft.Basic

/-! A condition is a predicate on one craft, built from single checks with the
connectives of logic. A check on the properties of modules or resources passes when
the craft has none that it speaks of: a rule about equipment that a design does not
use does not keep the design from taking part. -/

namespace Scrutineer

structure Bound where
  operator : Operator
  limit : Double
deriving DecidableEq

def Bound.admits (bound : Bound) (quantity : Double) : Bool :=
  bound.operator.holdsOfDoubles quantity bound.limit

structure PropertyCheck where
  part : String
  target : String
  key : String
  comparator : Comparator
  value : Scalar
deriving DecidableEq

namespace PropertyCheck

def satisfiedBy (check : PropertyCheck) (bag : Bag) : Bool :=
  match bag.find? check.key with
  | some actual => check.comparator.compare actual check.value
  | none => false

/-- A check passes when there are no parts for it, or none of their bags concerns
it, and otherwise when some bag satisfies it. -/
def passes (check : PropertyCheck) (bagsOf : Part → List Bag) (craft : Craft) : Bool :=
  let parts := craft.partsMatching check.part
  if parts.isEmpty then true
  else
    let bags := (parts.flatMap bagsOf).filter (·.nameContains check.target)
    if bags.isEmpty then true else bags.any check.satisfiedBy

end PropertyCheck

inductive Condition where
  | builtIn (building : Building)
  | size (x y z : Bound)
  | partCount (operator : Operator) (value : Int64)
  | partExists (part : String)
  | partNotExists (part : String)
  | partSetContains (parts : List String) (matcher : SetMatcher)
  | partSetCount (parts : List String) (operator : Operator) (value : Int64)
  | moduleProperty (check : PropertyCheck)
  | resourceProperty (check : PropertyCheck)
  | cost (bound : Bound)
  | mass (bound : Bound)
  | points (bound : Bound)
  | not (condition : Condition)
  | and (left right : Condition)
  | or (left right : Condition)
  | xor (left right : Condition)
deriving DecidableEq

namespace Condition

/-- The sum of the counts of base names, where a name that is listed twice
counts twice. -/
def totalOf (craft : Craft) (names : List String) : Int64 :=
  (names.map fun name => Int64.ofNat (craft.countOf name).toNat).foldl (· + ·) 0

def holds (craft : Craft) : Condition → Bool
  | .builtIn building => craft.building == building
  | .size x y z => x.admits craft.size.x && y.admits craft.size.y && z.admits craft.size.z
  | .partCount operator value => operator.holdsOfInts craft.parts.length value.toInt
  | .partExists part => !(craft.partsMatching part).isEmpty
  | .partNotExists part => (craft.partsMatching part).isEmpty
  | .partSetContains parts matcher => matcher.holds craft.containsBase parts
  | .partSetCount parts operator value =>
      operator.holdsOfInts (totalOf craft parts).toInt value.toInt
  | .moduleProperty check => check.passes Part.modules craft
  | .resourceProperty check => check.passes Part.resources craft
  | .cost bound => bound.admits craft.cost
  | .mass bound => bound.admits craft.mass
  | .points bound => bound.admits craft.points
  | .not condition => !condition.holds craft
  | .and left right => left.holds craft && right.holds craft
  | .or left right => left.holds craft || right.holds craft
  | .xor left right => left.holds craft != right.holds craft

def kindName : Condition → String
  | .builtIn .. => "ship_location"
  | .size .. => "ship_size"
  | .partCount .. => "part_count"
  | .partExists .. => "part_exists"
  | .partNotExists .. => "part_not_exists"
  | .partSetContains .. => "part_set_contains"
  | .partSetCount .. => "part_set_count"
  | .moduleProperty .. => "module_property"
  | .resourceProperty .. => "resource_property"
  | .cost .. => "ship_cost"
  | .mass .. => "ship_mass"
  | .points .. => "ship_points"
  | .not .. => "not"
  | .and .. => "and"
  | .or .. => "or"
  | .xor .. => "xor"

end Condition
end Scrutineer
