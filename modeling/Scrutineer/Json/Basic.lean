import Scrutineer.Dictionary
import Scrutineer.Json.Number

/-! Objects hold their members as a list. Values that come from JSON text list the
members in increasing order of their keys, each key once; such values are called
canonical. Values that are built to be written may list the members in an order of
their own. -/

namespace Scrutineer

inductive Json where
  | null
  | truth (value : Bool)
  | number (value : Number)
  | text (content : String)
  | array (items : List Json)
  | object (members : List (String × Json))

abbrev Members := List (String × Json)

namespace Json

def kindName : Json → String
  | .null => "null"
  | .truth _ => "boolean"
  | .number _ => "number"
  | .text _ => "string"
  | .array _ => "array"
  | .object _ => "object"

/-- A double as a JSON value; what is not finite becomes null. -/
def ofDouble (value : Double) : Json :=
  match Number.ofDouble? value with
  | some known => .number known
  | none => .null

/-- A natural number as a JSON value: whole where it fits, else the nearest
double. -/
def ofNat (value : Nat) : Json :=
  match Number.ofInt? value with
  | some known => .number known
  | none => ofDouble (.ofInt value)

def ofTexts (texts : List String) : Json :=
  .array (texts.map .text)

def member? (key : String) : Json → Option Json
  | .object members => Entries.find? key members
  | _ => none

def text? : Json → Option String
  | .text content => some content
  | _ => none

def items? : Json → Option (List Json)
  | .array items => some items
  | _ => none

/-- Whether every object inside lists its members in increasing order of their
keys. -/
inductive Canonical : Json → Prop where
  | null : Canonical .null
  | truth (value : Bool) : Canonical (.truth value)
  | number (value : Number) : Canonical (.number value)
  | text (content : String) : Canonical (.text content)
  | array (items : List Json) (each : ∀ item ∈ items, Canonical item) : Canonical (.array items)
  | object (members : List (String × Json)) (increasing : Entries.Increasing members)
      (each : ∀ member ∈ members, Canonical member.2) : Canonical (.object members)

end Json
end Scrutineer
