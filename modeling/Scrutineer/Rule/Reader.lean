import Scrutineer.Rule.Reading

/-! A reader goes through the parameters of one rule in whatever order they are asked
for. Each read gives a value or none. What is wrong is noted under the key that was
read, and the reader goes on, so that all errors are given out at the end. -/

namespace Scrutineer

structure Reader where
  strategy : String
  params : Members

/-- What gives a value or none, and may note errors on the way. -/
abbrev Noting (Value : Type) := OptionT (StateM (List ParamError)) Value

structure Definition.Within (outer : Members) extends Definition where
  smaller : sizeOf toDefinition.params < sizeOf outer

private theorem sizeOf_find? {key : String} {params : Members} {value : Json}
    (found : Entries.find? key params = some value) : sizeOf value < sizeOf params := by
  induction params with
  | nil => cases found
  | cons member rest ih =>
      obtain ⟨other, held⟩ := member
      rw [Entries.find?, List.lookup_cons] at found
      split at found
      · cases found
        simp only [List.cons.sizeOf_spec, Prod.mk.sizeOf_spec]
        omega
      · have smaller := ih found
        simp only [List.cons.sizeOf_spec]
        omega

private theorem sizeOf_member? {key : String} {value inner : Json}
    (found : value.member? key = some inner) : sizeOf inner < sizeOf value := by
  cases value with
  | object members =>
      have smaller := sizeOf_find? found
      rw [Json.object.sizeOf_spec]
      omega
  | _ => cases found

private theorem sizeOf_definition {params inner : Members} {key : String} {value : Json}
    (found : Entries.find? key params = some value)
    (inside : value.member? "params" = some (.object inner)) : sizeOf inner < sizeOf params := by
  have first := sizeOf_member? inside
  have second := sizeOf_find? found
  rw [Json.object.sizeOf_spec] at first
  omega

namespace Reader

def note (key : String) (fault : ParamFault) : Noting Unit :=
  modify fun errors => errors ++ [{ key, fault }]

variable (reader : Reader)

/-- The value under a key, where null counts as no value. -/
def raw (key : String) : Noting { value // Entries.find? key reader.params = some value } :=
  match (Entries.find? key reader.params).attach with
  | none | some ⟨.null, _⟩ => do
      note key .missing
      failure
  | some stored => return stored

def rawText (key : String) : Noting String := do
  match (← reader.raw key).val with
  | .text content => return content
  | .number value => return String.ofList value.text
  | other =>
      note key (.wrongType "string" other.kindName)
      failure

def name (key : String) : Noting String := do
  let cleaned := Name.sanitize (← reader.rawText key)
  if cleaned = "" then
    note key .empty
    failure
  else
    return cleaned

def nameUnder (first : String) (others : List String) : Noting String :=
  reader.name (Reading.presentKey reader.params first others)

def tagged {Value : Type} (find : String → Option Value) (unknown : String → ParamFault)
    (key : String) : Noting Value := do
  let tag ← reader.rawText key
  match find tag with
  | some known => return known
  | none =>
      note key (unknown tag)
      failure

def operator : String → Noting Operator :=
  reader.tagged Operator.ofTag? .unknownOperator

def matcher : String → Noting SetMatcher :=
  reader.tagged SetMatcher.ofTag? .unknownMatcher

def building : String → Noting Building :=
  reader.tagged Building.ofTag? .unknownLocation

def count (key : String) : Noting Int64 := do
  let value := (← reader.raw key).val
  let known :=
    match value with
    | .number number => Slot.countOfNumber? number
    | .text content => Count.ofText? (Text.trim content)
    | _ => none
  if known.isNone then
    note key (.notAnInteger (Slot.shown value))
  OptionT.mk (return known)

def double (key : String) : Noting Double := do
  let value := (← reader.raw key).val
  let known :=
    match value with
    | .number number => some number.toDouble
    | .text content => Double.ofText? (Text.trim content)
    | _ => none
  let finite := known.filter Double.isFinite
  if finite.isNone then
    note key (.notANumber (Slot.shown value))
  OptionT.mk (return finite)

def reference (form : Form) (key : String) : Noting Scalar := do
  let stored := (← reader.raw key).val
  let made :=
    match stored with
    | .number number => some (.number number.toDouble)
    | .text content => some (.text (Text.trim content))
    | .truth known => some (.truth known)
    | _ => none
  match made with
  | none =>
      note key (.wrongType "number or string" stored.kindName)
      failure
  | some value =>
      if Slot.isUsable form value then
        return value
      else
        note key
          (match form with
          | .count => .notAnInteger value.shown
          | _ => .notANumber value.shown)
        failure

def partSet (key : String) : Noting (List String) := do
  let parts ←
    match (← reader.raw key).val with
    | .text content => pure (Name.splitList content)
    | .array items =>
        match items.find? (·.text?.isNone) with
        | some bad =>
            note key (.wrongType "array of strings" bad.kindName)
            failure
        | none => pure ((items.filterMap Json.text?).flatMap Name.splitList)
    | other =>
        note key (.wrongType "comma-separated string" other.kindName)
        failure
  if parts.isEmpty then
    note key .emptyPartSet
    failure
  else
    return parts

def definition (key : String) : Noting (Definition.Within reader.params) := do
  let ⟨value, found⟩ ← reader.raw key
  match value.member? "strategy", inside : value.member? "params" with
  | some (.text strategy), some (.object params) =>
      return { strategy, params, smaller := sizeOf_definition found inside }
  | _, _ =>
      note key (.wrongType "rule definition \x7bstrategy, params\x7d" value.kindName)
      failure

def nestedError (key : String) (error : RuleError) : Noting Unit :=
  note key (.nested error.message)

/-- What was built, when there is something and no error has been noted. -/
def finish {Value : Type} (built : Option Value) (errors : List ParamError) :
    Except RuleError Value :=
  match built with
  | some value =>
      if errors.isEmpty then .ok value else .error (.invalidParams reader.strategy errors)
  | none => .error (.invalidParams reader.strategy errors)

/-! ### Calls -/

inductive Call where
  | name (key : String)
  | nameUnder (first : String) (others : List String)
  | operator (key : String)
  | matcher (key : String)
  | building (key : String)
  | count (key : String)
  | double (key : String)
  | reference (form : Form) (key : String)
  | partSet (key : String)
  | definition (key : String)
  | nestedError (key : String) (error : RuleError)

def Call.Value : Call → Type
  | .name _ | .nameUnder .. => String
  | .operator _ => Operator
  | .matcher _ => SetMatcher
  | .building _ => Building
  | .count _ => Int64
  | .double _ => Double
  | .reference .. => Scalar
  | .partSet _ => List String
  | .definition _ => Definition
  | .nestedError .. => Unit

def answer : (call : Call) → Noting call.Value
  | .name key => reader.name key
  | .nameUnder first others => reader.nameUnder first others
  | .operator key => reader.operator key
  | .matcher key => reader.matcher key
  | .building key => reader.building key
  | .count key => reader.count key
  | .double key => reader.double key
  | .reference form key => reader.reference form key
  | .partSet key => reader.partSet key
  | .definition key => Definition.Within.toDefinition <$> reader.definition key
  | .nestedError key error => nestedError key error

def perform (errors : List ParamError) (call : Call) : Option call.Value × List ParamError :=
  (reader.answer call).run.run errors

def performAll (errors : List ParamError) : List Call → List ParamError
  | [] => errors
  | call :: rest => performAll (reader.perform errors call).2 rest

end Reader
end Scrutineer
