import Scrutineer.Json.Token

/-! A document is what JSON text says, before anyone decides what to make of it:
members stand in the order of the text, repeated keys included, and numbers or texts
without a usable value are still there. The tree is built from tokens by a walk that
keeps the arrays and objects still open; its depth has no limit. -/

namespace Scrutineer

/-- A tree of JSON text. A number or a text without a usable value is `none`
inside. -/
inductive Document where
  | null
  | truth (value : Bool)
  | number (value : Option Number)
  | text (content : Option String)
  | array (items : List Document)
  | object (members : List (Option String × Document))

namespace Document

/-- An array or an object that is still open, with what it holds in reverse.
An open object also has the key whose value is being read. -/
inductive Frame where
  | items (earlier : List Document)
  | members (earlier : List (Option String × Document)) (key : Option String)

inductive Stage where
  | value
  | itemOrEnd
  | keyOrEnd
  | key (earlier : List (Option String × Document))
  | colon (earlier : List (Option String × Document)) (key : Option String)
  | done (value : Document)

structure Walk where
  stage : Stage
  frames : List Frame

def Walk.start : Walk := { stage := .value, frames := [] }

def Walk.enter (frames : List Frame) : Token → Option Walk
  | .null => some { stage := .done .null, frames }
  | .truth value => some { stage := .done (.truth value), frames }
  | .number value => some { stage := .done (.number value), frames }
  | .text content => some { stage := .done (.text content), frames }
  | .openArray => some { stage := .itemOrEnd, frames }
  | .openObject => some { stage := .keyOrEnd, frames }
  | _ => none

def Walk.leave (value : Document) : List Frame → Token → Option Walk
  | .items earlier :: outer, .comma =>
      some { stage := .value, frames := .items (value :: earlier) :: outer }
  | .items earlier :: outer, .closeArray =>
      some { stage := .done (.array (value :: earlier).reverse), frames := outer }
  | .members earlier key :: outer, .comma =>
      some { stage := .key ((key, value) :: earlier), frames := outer }
  | .members earlier key :: outer, .closeObject =>
      some { stage := .done (.object ((key, value) :: earlier).reverse), frames := outer }
  | _, _ => none

def Walk.step (walk : Walk) (token : Token) : Option Walk :=
  match walk.stage, token with
  | .value, token => Walk.enter walk.frames token
  | .itemOrEnd, .closeArray => some { stage := .done (.array []), frames := walk.frames }
  | .itemOrEnd, token => Walk.enter (.items [] :: walk.frames) token
  | .keyOrEnd, .closeObject => some { stage := .done (.object []), frames := walk.frames }
  | .keyOrEnd, .text key => some { stage := .colon [] key, frames := walk.frames }
  | .key earlier, .text key => some { stage := .colon earlier key, frames := walk.frames }
  | .colon earlier key, .colon =>
      some { stage := .value, frames := .members earlier key :: walk.frames }
  | .done value, token => Walk.leave value walk.frames token
  | _, _ => none

def Walk.result? (walk : Walk) : Option Document :=
  match walk.stage, walk.frames with
  | .done value, [] => some value
  | _, _ => none

def ofTokens? (tokens : List Token) : Option Document :=
  (tokens.foldlM Walk.step Walk.start).bind Walk.result?

def ofText? (text : String) : Option Document :=
  (Token.ofText? text).bind ofTokens?

/-! ### Strict documents -/

def depthLimit : Nat := 127

mutual

/-- Whether every number and text has a value, and no more arrays and objects
are open at once than the limit, counting those already open. -/
def isStrict (level : Nat) : Document → Bool
  | .null => true
  | .truth _ => true
  | .number value => value.isSome
  | .text content => content.isSome
  | .array items => level < depthLimit && areStrict (level + 1) items
  | .object members => level < depthLimit && membersAreStrict (level + 1) members

def areStrict (level : Nat) : List Document → Bool
  | [] => true
  | item :: rest => isStrict level item && areStrict level rest

def membersAreStrict (level : Nat) : List (Option String × Document) → Bool
  | [] => true
  | (key, value) :: rest =>
      key.isSome && isStrict level value && membersAreStrict level rest

end

/-! ### Values of documents -/

mutual

/-- The value of a strict document. Of members with one key the last remains,
and members come in increasing order of their keys. -/
def value? (level : Nat) : Document → Option Json
  | .null => some .null
  | .truth value => some (.truth value)
  | .number value => value.map .number
  | .text content => content.map .text
  | .array items =>
      if level < depthLimit then (values? (level + 1) items).map .array else none
  | .object members =>
      if level < depthLimit then
        (memberValues? (level + 1) members).map fun known => .object (Entries.ofList known)
      else none

def values? (level : Nat) : List Document → Option (List Json)
  | [] => some []
  | item :: rest =>
      match value? level item, values? level rest with
      | some known, some later => some (known :: later)
      | _, _ => none

def memberValues? (level : Nat) : List (Option String × Document) → Option Members
  | [] => some []
  | (key, value) :: rest =>
      match key, value? level value, memberValues? level rest with
      | some known, some held, some later => some ((known, held) :: later)
      | _, _, _ => none

end

/-! ### Documents of values -/

mutual

def ofJson : Json → Document
  | .null => .null
  | .truth value => .truth value
  | .number value => .number (some value)
  | .text content => .text (some content)
  | .array items => .array (ofItems items)
  | .object members => .object (ofMembers members)

def ofItems : List Json → List Document
  | [] => []
  | item :: rest => ofJson item :: ofItems rest

def ofMembers : List (String × Json) → List (Option String × Document)
  | [] => []
  | (key, value) :: rest => (some key, ofJson value) :: ofMembers rest

end

end Document

def Json.ofText? (text : String) : Option Json :=
  (Document.ofText? text).bind (Document.value? 0)

end Scrutineer
