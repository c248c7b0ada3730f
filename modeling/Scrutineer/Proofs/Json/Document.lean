import Scrutineer.Json.Document
import Scrutineer.Proofs.Json.Token

/-! Values read back from their text as documents. The walk over the tokens of a value
ends with the document of that value, with the same arrays and objects open as before
it. -/

namespace Scrutineer
namespace Document

theorem ofItems_eq_map (items : List Json) : ofItems items = items.map ofJson := by
  induction items with
  | nil => rfl
  | cons item rest ih => rw [ofItems, ih, List.map_cons]

theorem ofMembers_eq_map (members : Members) :
    ofMembers members = members.map fun member => (some member.1, ofJson member.2) := by
  induction members with
  | nil => rfl
  | cons member rest ih =>
      obtain ⟨key, value⟩ := member
      rw [ofMembers, ih, List.map_cons]

/-- The tokens of a value lead from where a value may start to where it is
whole. The first of them does not close an array. -/
structure Walks (tokens : List Token) (document : Document) : Prop where
  whole : ∀ frames, tokens.foldlM Walk.step { stage := .value, frames } =
    some { stage := .done document, frames }
  start : ∃ first rest, tokens = first :: rest ∧ first ≠ .closeArray

theorem Walks.single {token : Token} {document : Document} (starts : token ≠ .closeArray)
    (enters : ∀ frames, Walk.enter frames token = some { stage := .done document, frames }) :
    Walks [token] document where
  whole frames := by
    rw [List.foldlM_cons]
    change (Walk.enter frames token).bind _ = _
    rw [enters]
    rfl
  start := ⟨token, [], rfl, starts⟩

theorem Walks.foldlM_itemOrEnd {tokens : List Token} {document : Document}
    (walks : Walks tokens document) (behind : List Token) (frames : List Frame) :
    (tokens ++ behind).foldlM Walk.step { stage := .itemOrEnd, frames } =
      (tokens ++ behind).foldlM Walk.step { stage := .value, frames := .items [] :: frames } := by
  obtain ⟨first, rest, shape, starts⟩ := walks.start
  have same : Walk.step { stage := .itemOrEnd, frames } first =
      Walk.step { stage := .value, frames := .items [] :: frames } first := by
    cases first with
    | closeArray => exact absurd rfl starts
    | _ => rfl
  rw [shape, List.cons_append, List.foldlM_cons, List.foldlM_cons, same]

theorem Walks.foldlM_append {tokens : List Token} {document : Document}
    (walks : Walks tokens document) (behind : List Token) (frames : List Frame) :
    (tokens ++ behind).foldlM Walk.step { stage := .value, frames } =
      behind.foldlM Walk.step { stage := .done document, frames } := by
  rw [List.foldlM_append, walks.whole]
  rfl

theorem foldlM_itemTokens {items : List Json} (nonempty : items ≠ [])
    (each : ∀ item ∈ items, Walks item.tokens (ofJson item)) (earlier : List Document)
    (frames : List Frame) :
    (Json.itemTokens items ++ [Token.closeArray]).foldlM Walk.step
        { stage := .value, frames := .items earlier :: frames } =
      some { stage := .done (.array (earlier.reverse ++ ofItems items)), frames } := by
  induction items generalizing earlier with
  | nil => exact absurd rfl nonempty
  | cons item rest ih =>
      have first := each item List.mem_cons_self
      cases rest with
      | nil =>
          rw [Json.itemTokens, first.foldlM_append, ofItems, ofItems, ← List.reverse_cons]
          rfl
      | cons next rest =>
          have others := ih (List.cons_ne_nil next rest)
            (fun other member => each other (List.mem_cons_of_mem item member))
            (ofJson item :: earlier)
          rw [List.reverse_cons, List.append_assoc] at others
          rw [Json.itemTokens, List.append_assoc, first.foldlM_append]
          exact others

theorem foldlM_memberTokens {members : Members} (nonempty : members ≠ [])
    (each : ∀ member ∈ members, Walks member.2.tokens (ofJson member.2))
    (earlier : List (Option String × Document)) (frames : List Frame) :
    (Json.memberTokens members ++ [Token.closeObject]).foldlM Walk.step
        { stage := .key earlier, frames } =
      some { stage := .done (.object (earlier.reverse ++ ofMembers members)), frames } := by
  induction members generalizing earlier with
  | nil => exact absurd rfl nonempty
  | cons member rest ih =>
      obtain ⟨key, value⟩ := member
      have first := each (key, value) List.mem_cons_self
      have keyed (tokens : List Token) :
          (Token.text (some key) :: .colon :: tokens).foldlM Walk.step
              { stage := .key earlier, frames } =
            tokens.foldlM Walk.step
              { stage := .value, frames := .members earlier (some key) :: frames } :=
        rfl
      cases rest with
      | nil =>
          rw [Json.memberTokens, List.cons_append, List.cons_append, keyed, first.foldlM_append,
            ofMembers, ofMembers, ← List.reverse_cons]
          rfl
      | cons next rest =>
          have others := ih (List.cons_ne_nil next rest)
            (fun other within => each other (List.mem_cons_of_mem (key, value) within))
            ((some key, ofJson value) :: earlier)
          rw [List.reverse_cons, List.append_assoc] at others
          rw [Json.memberTokens, List.cons_append, List.cons_append, keyed, List.append_assoc,
            first.foldlM_append]
          exact others

theorem walks_tokens (value : Json) : Walks value.tokens (ofJson value) := by
  induction value using Json.induction with
  | null => exact Walks.single Token.noConfusion fun _frames => rfl
  | truth value => exact Walks.single Token.noConfusion fun _frames => rfl
  | number value => exact Walks.single Token.noConfusion fun _frames => rfl
  | text content => exact Walks.single Token.noConfusion fun _frames => rfl
  | array items each =>
      refine ⟨fun frames => ?_, _, _, rfl, Token.noConfusion⟩
      have opened : (Json.array items).tokens.foldlM Walk.step { stage := .value, frames } =
          (Json.itemTokens items ++ [Token.closeArray]).foldlM Walk.step
            { stage := .itemOrEnd, frames } :=
        rfl
      rw [opened, ofJson]
      cases items with
      | nil => rfl
      | cons item rest =>
          have first := each item List.mem_cons_self
          have whole := foldlM_itemTokens (List.cons_ne_nil item rest) each [] frames
          have same : (Json.itemTokens (item :: rest) ++ [Token.closeArray]).foldlM Walk.step
              { stage := .itemOrEnd, frames } =
                (Json.itemTokens (item :: rest) ++ [Token.closeArray]).foldlM Walk.step
                  { stage := .value, frames := .items [] :: frames } := by
            cases rest with
            | nil => exact first.foldlM_itemOrEnd [Token.closeArray] frames
            | cons next rest =>
                rw [Json.itemTokens, List.append_assoc]
                exact first.foldlM_itemOrEnd _ frames
          rw [same]
          exact whole
  | object members each =>
      refine ⟨fun frames => ?_, _, _, rfl, Token.noConfusion⟩
      rw [ofJson]
      cases members with
      | nil => rfl
      | cons member rest =>
          -- The first key is read as any other.
          have whole := foldlM_memberTokens (List.cons_ne_nil member rest) each [] frames
          cases rest with
          | nil => exact whole
          | cons next rest => exact whole

theorem ofTokens?_tokens (value : Json) : ofTokens? value.tokens = some (ofJson value) := by
  rw [ofTokens?, Walk.start, (walks_tokens value).whole]
  rfl

theorem ofText?_compact (value : Json) : ofText? value.compact = some (ofJson value) := by
  rw [ofText?, value.tokens_compact, Option.bind_some, ofTokens?_tokens]

theorem ofText?_pretty (value : Json) : ofText? value.pretty = some (ofJson value) := by
  rw [ofText?, value.tokens_pretty, Option.bind_some, ofTokens?_tokens]

end Document
end Scrutineer
