import Scrutineer.Comparison.Comparator
import Scrutineer.Comparison.SetMatcher
import Scrutineer.Craft.Building
import Scrutineer.Craft.Name
import Scrutineer.Error

/-! What the parameters of rules take. A slot says which values a parameter takes and
what it makes of them. Slots are generous about the kind of a value: numbers may stand
for texts and texts for numbers. A value of null counts as no value. -/

namespace Scrutineer

structure Definition where
  strategy : String
  params : Members

/-- What a parameter takes. -/
abbrev Slot (Value : Type) := Json → Except ParamFault Value

namespace Slot

def shown : Json → String
  | .text content => content
  | other => other.compact

def rawText : Slot String
  | .text content => .ok content
  | .number value => .ok (String.ofList value.text)
  | other => .error (.wrongType "string" other.kindName)

/-- A text that still has characters when it is sanitized. -/
def name : Slot String := fun value => do
  let cleaned := Name.sanitize (← rawText value)
  if cleaned = "" then .error .empty else .ok cleaned

def tagged {Value : Type} (find : String → Option Value) (unknown : String → ParamFault) :
    Slot Value := fun value => do
  let tag ← rawText value
  match find tag with
  | some known => .ok known
  | none => .error (unknown tag)

def operator : Slot Operator := tagged Operator.ofTag? .unknownOperator

def matcher : Slot SetMatcher := tagged SetMatcher.ofTag? .unknownMatcher

def building : Slot Building := tagged Building.ofTag? .unknownLocation

/-- The count of a JSON number. A whole number in range is taken as it is; any
other number must have no fraction, and goes to the nearer end of the range
when it is beyond. -/
def countOfNumber? (value : Number) : Option Int64 :=
  let nearest : Option Int64 :=
    if value.toDouble.isWhole then some (Count.ofDouble value.toDouble) else none
  match value with
  | .whole exact _ => (Count.ofInt? exact).or nearest
  | .real .. => nearest

def count : Slot Int64 := fun value =>
  let known :=
    match value with
    | .number number => countOfNumber? number
    | .text content => Count.ofText? (Text.trim content)
    | _ => none
  match known with
  | some count => .ok count
  | none => .error (.notAnInteger (shown value))

def double : Slot Double := fun value =>
  let known :=
    match value with
    | .number number => some number.toDouble
    | .text content => Double.ofText? (Text.trim content)
    | _ => none
  match known.filter Double.isFinite with
  | some number => .ok number
  | none => .error (.notANumber (shown value))

/-- Whether a scalar can be compared in a form at all: as a text always, as a
double when it denotes a finite one, as a count when it denotes one. -/
def isUsable (form : Form) (value : Scalar) : Bool :=
  match form.of? value with
  | some (.double number) => number.isFinite
  | some _ => true
  | none => false

/-- A scalar to compare with in a form. Texts are taken without the blanks at
their ends. -/
def reference (form : Form) : Slot Scalar := fun value =>
  let check (scalar : Scalar) : Except ParamFault Scalar :=
    if isUsable form scalar then .ok scalar
    else
      match form with
      | .count => .error (.notAnInteger scalar.shown)
      | _ => .error (.notANumber scalar.shown)
  match value with
  | .number number => check (.number number.toDouble)
  | .text content => check (.text (Text.trim content))
  | .truth known => check (.truth known)
  | other => .error (.wrongType "number or string" other.kindName)

def listedNames : List Json → Except ParamFault (List String)
  | [] => .ok []
  | .text content :: rest => do return Name.splitList content ++ (← listedNames rest)
  | other :: _ => .error (.wrongType "array of strings" other.kindName)

/-- A set of base names: a list with commas between them, or an array of such
lists. At least one name must be left when they are sanitized. -/
def partSet : Slot (List String) := fun value => do
  let names ←
    match value with
    | .text content => .ok (Name.splitList content)
    | .array items => listedNames items
    | other => .error (.wrongType "comma-separated string" other.kindName)
  if names.isEmpty then .error .emptyPartSet else .ok names

def definition : Slot Definition := fun value =>
  match value.member? "strategy", value.member? "params" with
  | some (.text strategy), some (.object params) => .ok { strategy, params }
  | _, _ => .error (.wrongType "rule definition \x7bstrategy, params\x7d" value.kindName)

def read {Value : Type} (slot : Slot Value) (params : Members) (key : String) :
    Except ParamFault Value :=
  match Entries.find? key params with
  | none | some .null => .error .missing
  | some value => slot value

end Slot

end Scrutineer
