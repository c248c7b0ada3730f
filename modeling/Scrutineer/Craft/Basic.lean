import Scrutineer.Craft.Building
import Scrutineer.Craft.Part

/-! A craft is what a design file says about one vehicle: where it was built, its
size, its parts with their modules and resources, and its totals. The part map counts
the instances of each base name; a design file may bring its own map, and otherwise
the map is derived from the parts. -/

namespace Scrutineer

abbrev PartMap := Dictionary UInt32

namespace PartMap

def countOne (counts : PartMap) (base : String) : PartMap :=
  counts.insert base ((counts.find? base).getD 0 + 1)

/-- The counts of the base names of parts; a part without one is not counted. -/
def ofParts (parts : List Part) : PartMap :=
  (parts.filterMap Part.base?).foldl countOne .empty

end PartMap

structure Size where
  x : Double
  y : Double
  z : Double
deriving DecidableEq

structure Craft where
  building : Building
  size : Size
  parts : List Part
  cost : Double
  mass : Double
  points : Double
  partMap : PartMap
deriving DecidableEq

namespace Craft

def bare (building : Building) (size : Size) : Craft :=
  { building, size, parts := [], cost := .zero, mass := .zero, points := .zero, partMap := .empty }

def withParts (craft : Craft) (parts : List Part) : Craft :=
  { craft with parts, partMap := .ofParts parts }

/-- The craft with one more part, which the part map does not count. -/
def addPart (craft : Craft) (part : Part) : Craft :=
  { craft with parts := craft.parts ++ [part] }

def withPartMap (craft : Craft) (partMap : PartMap) : Craft :=
  { craft with partMap }

def withTotals (craft : Craft) (cost mass points : Double) : Craft :=
  { craft with cost, mass, points }

/-- The quantities that rules measure, under the names that complaints use, in
the order in which they are checked. -/
def quantities (craft : Craft) : List (String × Double) :=
  [("cost", craft.cost), ("mass", craft.mass), ("points", craft.points),
    ("ship_size[0]", craft.size.x), ("ship_size[1]", craft.size.y), ("ship_size[2]", craft.size.z)]

def firstNotFinite? (craft : Craft) : Option String :=
  (craft.quantities.find? fun quantity => !quantity.2.isFinite).map Prod.fst

def partsMatching (craft : Craft) (base : String) : List Part :=
  craft.parts.filter (·.matchesBase base)

def countOf (craft : Craft) (base : String) : UInt32 :=
  (craft.partMap.find? base).getD 0

/-- Whether the part map knows a base name, be its count zero. -/
def containsBase (craft : Craft) (base : String) : Bool :=
  craft.partMap.contains base

end Craft

end Scrutineer
