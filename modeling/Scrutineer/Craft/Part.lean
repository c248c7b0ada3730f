import Scrutineer.Craft.Name
import Scrutineer.Dictionary
import Scrutineer.Scalar

/-! Parts with their modules and resources. Modules and resources have one shape: a
name and further properties. The name can be asked for like a property. -/

namespace Scrutineer

structure Bag where
  name : String
  properties : Dictionary Scalar
deriving DecidableEq

namespace Bag

def ofName (name : String) : Bag :=
  { name, properties := .empty }

def insert (bag : Bag) (key : String) (value : Scalar) : Bag :=
  { bag with properties := bag.properties.insert key value }

/-- The value under a key; under `name` it is the name itself. -/
def find? (bag : Bag) (key : String) : Option Scalar :=
  if key = "name" then some (.text bag.name) else bag.properties.find? key

def nameContains (bag : Bag) (fragment : String) : Bool :=
  Text.containsFragment fragment.toList bag.name.toList

end Bag

structure Part where
  name : String
  modules : List Bag
  resources : List Bag
deriving DecidableEq

namespace Part

def base? (part : Part) : Option String :=
  Name.base? part.name

def matchesBase (part : Part) (base : String) : Bool :=
  Name.matchesBase part.name base

end Part

end Scrutineer
