import Scrutineer.Craft.Basic
import Scrutineer.Error
import Scrutineer.Json.Decode

/-! Craft snapshots: reading crafts from JSON text and writing them. A snapshot is
loaded when it has the shape of a craft and its quantities are finite. One without a
part map, or with an empty one, gets the map of its parts. -/

namespace Scrutineer

/-! ### Scalars and bags -/

namespace Scalar

def decoder : Decoder Scalar := fun _ document =>
  match document with
  | .number (some value) => .ok (.number value.toDouble)
  | .number none => .error .unusable
  | .truth value => .ok (.truth value)
  | .text (some content) => .ok (.text content)
  | .text none => .error .unusable
  | _ => .error .notScalar

def toJson : Scalar → Json
  | .number value => .ofDouble value
  | .truth value => .truth value
  | .text content => .text content

end Scalar

namespace Bag

/-- A bag while its members are read. The other members are looked at when
all are there. -/
structure Draft where
  name : Option String
  others : List (String × Document)

def readMember (level : Nat) (draft : Draft) (member : Option String × Document) :
    Except DecodeError Draft := do
  let key ← Decoder.key member.1
  if key = "name" then
    if draft.name.isSome then .error (.duplicateField "name")
    else
      let name ← Decoder.text level member.2
      return { draft with name := some name }
  else return { draft with others := draft.others ++ [(key, member.2)] }

/-- Puts the other members into a dictionary, the last one of a key last. -/
def readProperties (level : Nat) (others : List (String × Document)) :
    Except DecodeError (Dictionary Scalar) :=
  others.foldlM (fun sofar other => do
    let value ← Scalar.decoder level other.2
    return sofar.insert other.1 value) .empty

def decoder : Decoder Bag := fun level document =>
  match document with
  | .object members => do
      let draft ← members.foldlM (readMember (level + 1)) { name := none, others := [] }
      let name ← Decoder.needed "name" draft.name
      return { name, properties := ← readProperties (level + 1) draft.others }
  | other => .error (Decoder.mismatch "struct PropertyBag" other)

def toJson (bag : Bag) : Json :=
  .object (("name", .text bag.name) ::
    bag.properties.entries.map fun entry => (entry.1, entry.2.toJson))

end Bag

/-! ### Parts -/

namespace Part

structure Draft where
  name : Option String
  modules : Option (List Bag)
  resources : Option (List Bag)

def shape : Decoder.Shape Draft Part where
  wanted := "struct Part"
  start := { name := none, modules := none, resources := none }
  fields := [
    { name := "name"
      required := true
      isSet := fun draft => draft.name.isSome
      read := fun level document => do
        let name ← Decoder.text level document
        return fun draft => { draft with name := some name } },
    { name := "modules"
      required := false
      isSet := fun draft => draft.modules.isSome
      read := fun level document => do
        let modules ← Decoder.list Bag.decoder level document
        return fun draft => { draft with modules := some modules } },
    { name := "resources"
      required := false
      isSet := fun draft => draft.resources.isSome
      read := fun level document => do
        let resources ← Decoder.list Bag.decoder level document
        return fun draft => { draft with resources := some resources } }]
  finish := fun draft => do
    let name ← Decoder.needed "name" draft.name
    return { name, modules := draft.modules.getD [], resources := draft.resources.getD [] }

def decoder : Decoder Part := shape.decoder

def toJson (part : Part) : Json :=
  .object [("name", .text part.name),
    ("modules", .array (part.modules.map Bag.toJson)),
    ("resources", .array (part.resources.map Bag.toJson))]

end Part

/-! ### Crafts -/

namespace Building

/-- The buildings by their tags, in upper and in lower case. -/
def tagged : List (String × Building) :=
  all.flatMap fun building => [(building.tag, building), (building.key, building)]

def decoder : Decoder Building := Decoder.named tagged

def ofJson : Json → Except DecodeError Building := Decoder.namedInValue tagged

end Building

namespace PartMap

def decoder : Decoder PartMap := Decoder.dictionary Decoder.word

def toJson (counts : PartMap) : Json :=
  .object (counts.entries.map fun entry => (entry.1, .number (.ofWord entry.2)))

end PartMap

namespace Craft

structure Draft where
  building : Option Building
  size : Option Size
  parts : Option (List Part)
  cost : Option Double
  mass : Option Double
  points : Option Double
  partMap : Option PartMap

def numberField (name : String) (held : Draft → Option Double)
    (set : Double → Draft → Draft) : Decoder.Field Draft where
  name := name
  required := true
  isSet := fun draft => (held draft).isSome
  read := fun level document => do
    let value ← Decoder.double level document
    return set value

def shape : Decoder.Shape Draft Craft where
  wanted := "struct Craft"
  start :=
    { building := none, size := none, parts := none, cost := none, mass := none, points := none
      partMap := none }
  fields := [
    { name := "ship_location"
      required := true
      isSet := fun draft => draft.building.isSome
      read := fun level document => do
        let building ← Building.decoder level document
        return fun draft => { draft with building := some building } },
    { name := "ship_size"
      required := true
      isSet := fun draft => draft.size.isSome
      read := fun level document => do
        let (x, y, z) ← Decoder.triple Decoder.double level document
        return fun draft => { draft with size := some { x, y, z } } },
    { name := "parts"
      required := true
      isSet := fun draft => draft.parts.isSome
      read := fun level document => do
        let parts ← Decoder.list Part.decoder level document
        return fun draft => { draft with parts := some parts } },
    numberField "cost" (·.cost) (fun value draft => { draft with cost := some value }),
    numberField "mass" (·.mass) (fun value draft => { draft with mass := some value }),
    numberField "points" (·.points) (fun value draft => { draft with points := some value }),
    { name := "part_map"
      required := false
      isSet := fun draft => draft.partMap.isSome
      read := fun level document => do
        let partMap ← PartMap.decoder level document
        return fun draft => { draft with partMap := some partMap } }]
  finish := fun draft => do
    let building ← Decoder.needed "ship_location" draft.building
    let size ← Decoder.needed "ship_size" draft.size
    let parts ← Decoder.needed "parts" draft.parts
    let cost ← Decoder.needed "cost" draft.cost
    let mass ← Decoder.needed "mass" draft.mass
    let points ← Decoder.needed "points" draft.points
    return { building, size, parts, cost, mass, points, partMap := draft.partMap.getD .empty }

def decoder : Decoder Craft := shape.decoder

def toJson (craft : Craft) : Json :=
  .object [("ship_location", .text craft.building.tag),
    ("ship_size", .array [.ofDouble craft.size.x, .ofDouble craft.size.y, .ofDouble craft.size.z]),
    ("parts", .array (craft.parts.map Part.toJson)),
    ("cost", .ofDouble craft.cost),
    ("mass", .ofDouble craft.mass),
    ("points", .ofDouble craft.points),
    ("part_map", craft.partMap.toJson)]

def validate (craft : Craft) : Except RuleError Unit :=
  match craft.firstNotFinite? with
  | some quantity => .error (.malformedCraft (.notFinite quantity))
  | none => .ok ()

/-- The craft with the part map of its parts, unless it has one already. -/
def completePartMap (craft : Craft) : Craft :=
  if craft.partMap.isEmpty && !craft.parts.isEmpty then craft.withParts craft.parts else craft

def load (text : String) : Except RuleError Craft := do
  let craft ← (Decoder.ofText decoder text).mapError fun cause => .malformedCraft (.unreadable cause)
  let complete := craft.completePartMap
  complete.validate
  return complete

end Craft
end Scrutineer
