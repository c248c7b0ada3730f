import Scrutineer.Json.Basic
import Scrutineer.Scalar

/-! Trees of settings. A setting is a single value, a list of settings, or a group of
settings by name. Where a single value of some kind is wanted, it is converted from
another kind if that can be done without guessing. -/

namespace Scrutineer

inductive Setting where
  | nothing
  | text (content : String)
  | whole (value : Int)
  | real (value : Double)
  | truth (value : Bool)
  | list (items : List Setting)
  | group (entries : List (String × Setting))

namespace Setting

/-! ### Single values -/

def unsigned? (content : String) : Option Nat :=
  let digits :=
    match content.toList with
    | '+' :: rest => rest
    | characters => characters
  (Count.digitsValue? digits).filter (· < UInt64.size)

def isYes (word : String) : Bool :=
  word == "true" || word == "on" || word == "yes"

def isNo (word : String) : Bool :=
  word == "false" || word == "off" || word == "no"

/-- The nearest whole number; a half goes away from zero. -/
def nearestNat (value : Double) : Nat :=
  match value with
  | .signed false rank _ =>
      min ((2 * Double.units rank + Double.unitsPerOne) / (2 * Double.unitsPerOne)) (UInt64.size - 1)
  | _ => 0

def asText? : Setting → Option String
  | .text content => some content
  | .whole value => some (toString value)
  | .real value => some value.message
  | .truth value => some (if value then "true" else "false")
  | _ => none

def asTruth? : Setting → Option Bool
  | .truth value => some value
  | .whole value => some (value != 0)
  | .real value => some (value.place? != some 0)
  | .text content =>
      let word := Text.foldCase content
      if isYes word || word == "1" then some true
      else if isNo word || word == "0" then some false
      else none
  | _ => none

def asNat? : Setting → Option Nat
  | .whole value => if 0 ≤ value then some value.toNat else none
  | .real value => some (nearestNat value)
  | .truth value => some (if value then 1 else 0)
  | .text content =>
      let word := Text.foldCase content
      if isYes word then some 1 else if isNo word then some 0 else unsigned? content
  | _ => none

def ofText (content : String) : Setting :=
  if Text.foldCase content = "true" then .truth true
  else if Text.foldCase content = "false" then .truth false
  else
    match Count.ofText? content, Double.ofText? content with
    | some value, _ => .whole value.toInt
    | none, some value => .real value
    | none, none => .text content

/-! ### Lists and groups -/

def items : Setting → List Setting
  | .list items => items
  | _ => []

def entries : Setting → List (String × Setting)
  | .group entries => entries
  | _ => []

/-- The settings in the fields of a record, which is written as a group by name
or as a list in the order of the names. -/
def fields? (names : List String) : Setting → Option (String → Option Setting)
  | .group entries => some fun name => Entries.find? name entries
  | .list items => some fun name => items[names.idxOf name]?
  | _ => none

mutual

/-- Lays a setting over another one: groups are united name by name, and all
else takes the place of what was there. -/
def overlay (above below : Setting) : Setting :=
  match above with
  | .group entries => .group (overlayEntries entries below.entries)
  | other => other

def overlayEntries (above below : List (String × Setting)) : List (String × Setting) :=
  match above with
  | [] => below
  | (name, value) :: rest =>
      overlayEntries rest
        (Entries.insert name (overlay value ((Entries.find? name below).getD .nothing)) below)

end

mutual

/-- The setting that a JSON value is. A whole number above the range of counts
goes to the nearest double. -/
def ofJson : Json → Setting
  | .null => .nothing
  | .truth value => .truth value
  | .number (.real value _) => .real value
  | .number (.whole value _) =>
      if value ≤ Count.greatest then .whole value else .real (.ofInt value)
  | .text content => .text content
  | .array items => .list (ofItems items)
  | .object members => .group (ofMembers members)

def ofItems : List Json → List Setting
  | [] => []
  | item :: rest => ofJson item :: ofItems rest

def ofMembers : List (String × Json) → List (String × Setting)
  | [] => []
  | (name, value) :: rest => (name, ofJson value) :: ofMembers rest

end

end Setting
end Scrutineer
