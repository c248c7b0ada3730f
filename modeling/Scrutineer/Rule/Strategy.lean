import Scrutineer.Text.Blank

/-! Strategies: the kinds of rules and the parameters that each kind takes. -/

namespace Scrutineer

inductive Strategy where
  | partCount
  | partExists
  | partNotExists
  | partSetCount
  | partSetContains
  | doubleModuleProperty
  | countModuleProperty
  | textModuleProperty
  | resourceProperty
  | shipCost
  | shipMass
  | shipPoints
  | shipSize
  | shipLocation
  | not
  | and
  | or
  | xor
deriving DecidableEq

namespace Strategy

def all : List Strategy :=
  [.partCount, .partExists, .partNotExists, .partSetCount, .partSetContains,
    .doubleModuleProperty, .countModuleProperty, .textModuleProperty, .resourceProperty,
    .shipCost, .shipMass, .shipPoints, .shipSize, .shipLocation, .not, .and, .or, .xor]

def name : Strategy → String
  | .partCount => "part_count"
  | .partExists => "part_exists"
  | .partNotExists => "part_not_exists"
  | .partSetCount => "part_set_count"
  | .partSetContains => "part_set_contains"
  | .doubleModuleProperty => "float_module_property"
  | .countModuleProperty => "int_module_property"
  | .textModuleProperty => "string_module_property"
  | .resourceProperty => "resource_property"
  | .shipCost => "ship_cost"
  | .shipMass => "ship_mass"
  | .shipPoints => "ship_points"
  | .shipSize => "ship_size"
  | .shipLocation => "ship_location"
  | .not => "not"
  | .and => "and"
  | .or => "or"
  | .xor => "xor"

/-- The strategy of a name in any letter case, with blanks around it or not.
Two strategies are also known under an older name. -/
def ofName? (text : String) : Option Strategy :=
  let key := Text.tagKey text
  if key = "part_set_exists" then some .partSetContains
  else if key = "ship_type" then some .shipLocation
  else all.find? (·.name == key)

/-- The keys of the parameters in the order in which they are read. Where a
parameter has two keys, both are named with a bar between them. -/
def paramKeys : Strategy → List String
  | .partCount => ["op", "value"]
  | .partExists | .partNotExists => ["part"]
  | .partSetCount => ["parts", "op", "value"]
  | .partSetContains => ["parts", "matcher"]
  | .doubleModuleProperty | .countModuleProperty | .textModuleProperty =>
      ["part", "mod|name", "key", "op", "value"]
  | .resourceProperty => ["part", "res|name", "key", "op", "value"]
  | .shipCost | .shipMass | .shipPoints => ["op", "value"]
  | .shipSize => ["opx", "x", "opy", "y", "opz", "z"]
  | .shipLocation => ["location|type"]
  | .not => ["rule"]
  | .and | .or | .xor => ["a", "b"]

end Strategy
end Scrutineer
