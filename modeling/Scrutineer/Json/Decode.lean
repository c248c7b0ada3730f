import Scrutineer.Json.DecodeError

/-! A decoder goes through a document in the order of the text and stops at the first
fault. Records come as objects, where unknown members are ignored, or as arrays of
their fields in order; names of a fixed set come as texts, or as an object that has
the name for its only key and null for its value. A text that is read to the end
without a fault is accepted even when ignored members hold values that nobody could
keep. A fault is reported with its cause only when the whole text is a strict
document. -/

namespace Scrutineer

/-- A reader of documents, told how many arrays and objects are open around. -/
abbrev Decoder (Value : Type) := (level : Nat) → Document → Except DecodeError Value

namespace Decoder

variable {Value : Type}

def mismatch (wanted : String) : Document → DecodeError
  | .null => .wrongType .null wanted
  | .truth value => .wrongType (.truth value) wanted
  | .number (some value) => .wrongType (.number value) wanted
  | .number none => .unusable
  | .text (some content) => .wrongType (.text content) wanted
  | .text none => .unusable
  | .array _ => .wrongType .sequence wanted
  | .object _ => .wrongType .map wanted

def text : Decoder String := fun _ document =>
  match document with
  | .text (some content) => .ok content
  | other => .error (mismatch "a string" other)

def double : Decoder Double := fun _ document =>
  match document with
  | .number (some value) => .ok value.toDouble
  | other => .error (mismatch "f64" other)

def word : Decoder UInt32 := fun _ document =>
  match document with
  | .number (some (.whole value bounded)) =>
      if 0 ≤ value ∧ value < UInt32.size then .ok (UInt32.ofNat value.toNat)
      else .error (.wrongValue (.number (.whole value bounded)) "u32")
  | other => .error (mismatch "u32" other)

def json : Decoder Json := fun level document =>
  match document.value? level with
  | some value => .ok value
  | none => .error .unusable

def key : Option String → Except DecodeError String
  | some known => .ok known
  | none => .error .unusable

def list (decoder : Decoder Value) : Decoder (List Value) := fun level document =>
  match document with
  | .array items => items.mapM (decoder (level + 1))
  | other => .error (mismatch "a sequence" other)

def triple (decoder : Decoder Value) : Decoder (Value × Value × Value) :=
  fun level document =>
    let short (length : Nat) : Except DecodeError (Value × Value × Value) :=
      .error (.tooShort length "an array of length 3")
    match document with
    | .array [] => short 0
    | .array (first :: rest) => do
        let x ← decoder (level + 1) first
        match rest with
        | [] => short 1
        | second :: rest =>
            let y ← decoder (level + 1) second
            match rest with
            | [] => short 2
            | third :: rest =>
                let z ← decoder (level + 1) third
                if rest.isEmpty then .ok (x, y, z) else .error (.tooLong (rest.length + 3))
    | other => .error (mismatch "an array of length 3" other)

def dictionary (decoder : Decoder Value) : Decoder (Dictionary Value) := fun level document =>
  match document with
  | .object members =>
      members.foldlM (fun sofar member => do
        let known ← key member.1
        let value ← decoder (level + 1) member.2
        return sofar.insert known value) Dictionary.empty
  | other => .error (mismatch "a map" other)

def members : Decoder Members := fun level document =>
  match document with
  | .object _ => do
      match ← json level document with
      | .object known => .ok known
      | _ => .error .unusable
  | other => .error (mismatch "a map" other)

def unit : Decoder Unit := fun _ document =>
  match document with
  | .null => .ok ()
  | other => .error (mismatch "unit" other)

def named (known : List (String × Value)) : Decoder Value :=
  let find (name : String) : Except DecodeError Value :=
    match known.lookup name with
    | some value => .ok value
    | none => .error (.unknownName name (known.map Prod.fst))
  fun level document =>
    match document with
    | .text (some name) => find name
    | .text none => .error .unusable
    | .object ((some name, payload) :: rest) => do
        let value ← find name
        unit (level + 1) payload
        if rest.isEmpty then .ok value else .error .noName
    | _ => .error .noName

/-- One of the values of a fixed set, by its name, out of a value that was not
read from a text of its own. An object is looked into when it has one key. -/
def namedInValue (known : List (String × Value)) (value : Json) : Except DecodeError Value :=
  let find (name : String) : Except DecodeError Value :=
    match known.lookup name with
    | some value => .ok value
    | none => .error (.unknownName name (known.map Prod.fst))
  match value with
  | .text name => find name
  | .object [(name, payload)] => do
      let value ← find name
      unit 0 (.ofJson payload)
      return value
  | .object _ => .error (.wrongValue .map "map with a single key")
  | other => .error (mismatch "string or map" (.ofJson other))

/-! ### Records -/

structure Field (Draft : Type) where
  name : String
  required : Bool
  isSet : Draft → Bool
  read : Decoder (Draft → Draft)

/-- How a record is read: its name in complaints, its fields in order, what is
there before any field is read, and what is made of it at the end. -/
structure Shape (Draft Value : Type) where
  wanted : String
  fields : List (Field Draft)
  start : Draft
  finish : Draft → Except DecodeError Value

namespace Shape

variable {Draft : Type}

/-- Reads one member of an object. A known field may occur once; unknown
members are ignored. -/
def readMember (shape : Shape Draft Value) (level : Nat) (draft : Draft)
    (member : Option String × Document) : Except DecodeError Draft := do
  let name ← key member.1
  match shape.fields.find? (·.name == name) with
  | none => return draft
  | some field =>
      if field.isSet draft then .error (.duplicateField name)
      else
        let set ← field.read level member.2
        return set draft

/-- Reads the items of an array into the fields in order. The position counts
the items already read. -/
def readItems (shape : Shape Draft Value) (level position : Nat) (draft : Draft) :
    List (Field Draft) → List Document → Except DecodeError Draft
  | [], [] => .ok draft
  | [], item :: items => .error (.tooLong (position + (item :: items).length))
  | field :: fields, [] =>
      if field.required then
        .error (.tooShort position
          (shape.wanted ++ " with " ++ toString shape.fields.length ++ " elements"))
      else readItems shape level position draft fields []
  | field :: fields, item :: items => do
      let set ← field.read level item
      readItems shape level (position + 1) (set draft) fields items

def decoder (shape : Shape Draft Value) : Decoder Value := fun level document =>
  match document with
  | .object members => do
      shape.finish (← members.foldlM (shape.readMember (level + 1)) shape.start)
  | .array items => do
      shape.finish (← shape.readItems (level + 1) 0 shape.start shape.fields items)
  | other => .error (mismatch shape.wanted other)

end Shape

def needed (name : String) : Option Value → Except DecodeError Value
  | some value => .ok value
  | none => .error (.missingField name)

def ofText (decoder : Decoder Value) (text : String) : Except Unreadable Value :=
  match Document.ofText? text with
  | none => .error .notJson
  | some document =>
      match decoder 0 document with
      | .ok value => .ok value
      | .error fault =>
          .error (if document.isStrict 0 then .wrongShape fault else .notJson)

end Decoder
end Scrutineer
