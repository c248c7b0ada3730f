import Scrutineer.Json.Decode

/-! Rules as they are stored: an identifier, the name of a strategy, and the
parameters. Whether the strategy exists is not asked before compilation. -/

namespace Scrutineer

structure Rule where
  id : String
  strategy : String
  params : Members

namespace Rule

/-- A rule with parameters from a JSON value; all but objects count as no
parameters. -/
def ofJson (id strategy : String) (params : Json) : Rule :=
  match params with
  | .object known => { id, strategy, params := known }
  | _ => { id, strategy, params := [] }

structure Draft where
  id : Option String
  strategy : Option String
  params : Option Members

def idDecoder : Decoder String := fun level document => do
  match ← Decoder.json level document with
  | .text content => .ok content
  | .number value => .ok (String.ofList value.text)
  | other => .error (.badIdentifier other)

def shape : Decoder.Shape Draft Rule where
  wanted := "struct Rule"
  start := { id := none, strategy := none, params := none }
  fields := [
    { name := "id"
      required := true
      isSet := fun draft => draft.id.isSome
      read := fun level document => do
        let id ← idDecoder level document
        return fun draft => { draft with id := some id } },
    { name := "strategy"
      required := true
      isSet := fun draft => draft.strategy.isSome
      read := fun level document => do
        let strategy ← Decoder.text level document
        return fun draft => { draft with strategy := some strategy } },
    { name := "params"
      required := false
      isSet := fun draft => draft.params.isSome
      read := fun level document => do
        let params ← Decoder.members level document
        return fun draft => { draft with params := some params } }]
  finish := fun draft => do
    let id ← Decoder.needed "id" draft.id
    let strategy ← Decoder.needed "strategy" draft.strategy
    return { id, strategy, params := draft.params.getD [] }

def decoder : Decoder Rule := shape.decoder

def listDecoder : Decoder (List Rule) := Decoder.list decoder

def toJson (rule : Rule) : Json :=
  .object [("id", .text rule.id), ("strategy", .text rule.strategy),
    ("params", .object rule.params)]

end Rule
end Scrutineer
