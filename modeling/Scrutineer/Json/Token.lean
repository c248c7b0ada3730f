import Scrutineer.Json.Basic
import Scrutineer.Text.Split

/-! The tokens of JSON text. Text is cut into brackets, marks, words, numbers
and texts, with gaps between them skipped. A number out of range and a text with
half of a surrogate pair are tokens without a value: they are harmless where
nobody reads them. -/

namespace Scrutineer

/-- A token of JSON text. A number or a text without a usable value is kept as
a token of its kind. -/
inductive Token where
  | openArray
  | closeArray
  | openObject
  | closeObject
  | comma
  | colon
  | null
  | truth (value : Bool)
  | number (value : Option Number)
  | text (content : Option String)
deriving DecidableEq

namespace Token

/-! ### Reading -/

def isGap (character : Char) : Bool :=
  character == ' ' || character == '\n' || character == '\r' || character == '\t'

inductive Piece where
  | character (value : Char)
  | code (value : Nat)

def hexDigit? (digit : Char) : Option Nat :=
  if digit.isDigit then some (digit.toNat - '0'.toNat)
  else if 'a' ≤ digit ∧ digit ≤ 'f' then some (digit.toNat - 'a'.toNat + 10)
  else if 'A' ≤ digit ∧ digit ≤ 'F' then some (digit.toNat - 'A'.toNat + 10)
  else none

def hexCode? (first second third fourth : Char) : Option Nat :=
  match hexDigit? first, hexDigit? second, hexDigit? third, hexDigit? fourth with
  | some a, some b, some c, some d => some (((a * 16 + b) * 16 + c) * 16 + d)
  | _, _, _, _ => none

def escaped? : Char → Option Char
  | '"' => some '"'
  | '\\' => some '\\'
  | '/' => some '/'
  | 'b' => some '\x08'
  | 'f' => some '\x0c'
  | 'n' => some '\n'
  | 'r' => some '\r'
  | 't' => some '\t'
  | _ => none

/-- The pieces up to the closing quote, added in reverse to the earlier ones,
and what follows the quote. Control characters must be escaped. -/
def scanText (earlier : List Piece) : List Char → Option (List Piece × List Char)
  | [] => none
  | '"' :: rest => some (earlier, rest)
  | '\\' :: 'u' :: first :: second :: third :: fourth :: rest =>
      match hexCode? first second third fourth with
      | some code => scanText (.code code :: earlier) rest
      | none => none
  | '\\' :: mark :: rest =>
      match escaped? mark with
      | some character => scanText (.character character :: earlier) rest
      | none => none
  | character :: rest =>
      if character.toNat < 0x20 || character == '\\' then none
      else scanText (.character character :: earlier) rest

/-- The characters of reversed pieces, in front of the later ones. Two codes
that form a surrogate pair are one character; a code that needs a partner and
has none makes the text unusable. -/
def joinPieces? (later : List Char) : List Piece → Option (List Char)
  | [] => some later
  | .character value :: rest => joinPieces? (value :: later) rest
  | .code low :: rest =>
      if 0xDC00 ≤ low ∧ low < 0xE000 then
        match rest with
        | .code high :: rest =>
            if 0xD800 ≤ high ∧ high < 0xDC00 then
              let value := 0x10000 + (high - 0xD800) * 0x400 + (low - 0xDC00)
              joinPieces? (Char.ofNat value :: later) rest
            else none
        | _ => none
      else if 0xD800 ≤ low ∧ low < 0xDC00 then none
      else joinPieces? (Char.ofNat low :: later) rest

def read? (first : Char) (rest : List Char) : Option (Token × List Char) :=
  if first.isDigit || first == '-' then
    let tail := rest.takeWhile Number.isLiteralCharacter
    (Number.ofLiteral? (first :: tail)).map fun value =>
      (.number value, rest.dropWhile Number.isLiteralCharacter)
  else
    match first with
    | '"' =>
        (scanText [] rest).map fun (pieces, after) =>
          (.text ((joinPieces? [] pieces).map String.ofList), after)
    | '[' => some (.openArray, rest)
    | ']' => some (.closeArray, rest)
    | '\x7b' => some (.openObject, rest)
    | '\x7d' => some (.closeObject, rest)
    | ',' => some (.comma, rest)
    | ':' => some (.colon, rest)
    | 'n' => (Text.dropLead? "ull".toList rest).map fun after => (.null, after)
    | 't' => (Text.dropLead? "rue".toList rest).map fun after => (.truth true, after)
    | 'f' => (Text.dropLead? "alse".toList rest).map fun after => (.truth false, after)
    | _ => none

private theorem length_dropWhile_le (keep : Char → Bool) (characters : List Char) :
    (characters.dropWhile keep).length ≤ characters.length :=
  (List.dropWhile_suffix keep).length_le

private theorem length_dropLead (lead characters after : List Char)
    (found : Text.dropLead? lead characters = some after) :
    after.length ≤ characters.length := by
  induction lead generalizing characters with
  | nil =>
      cases found
      exact Nat.le_refl _
  | cons wanted lead ih =>
      cases characters with
      | nil => cases found
      | cons first rest =>
          rw [Text.dropLead?] at found
          split at found
          · exact Nat.le_succ_of_le (ih rest found)
          · cases found

private theorem length_scanText (earlier : List Piece) (characters : List Char)
    (pieces : List Piece) (after : List Char)
    (found : scanText earlier characters = some (pieces, after)) :
    after.length ≤ characters.length := by
  fun_induction scanText earlier characters with
  | case1 => cases found
  | case2 => cases found; simp
  | case3 _ _ _ _ _ _ _ _ ih => have shorter := ih found; simp only [List.length_cons]; omega
  | case4 => cases found
  | case5 _ _ _ _ _ _ ih => have shorter := ih found; simp only [List.length_cons]; omega
  | case6 => cases found
  | case7 => cases found
  | case8 _ _ _ _ _ _ _ ih => have shorter := ih found; simp only [List.length_cons]; omega

theorem length_read? (first : Char) (rest after : List Char) (token : Token)
    (found : read? first rest = some (token, after)) : after.length ≤ rest.length := by
  unfold read? at found
  split at found
  · obtain ⟨_, _, same⟩ := Option.map_eq_some_iff.mp found
    cases same
    exact length_dropWhile_le _ _
  · split at found
    case h_1 =>
      obtain ⟨⟨pieces, behind⟩, scanned, same⟩ := Option.map_eq_some_iff.mp found
      cases same
      exact length_scanText _ _ _ _ scanned
    case h_8 | h_9 | h_10 =>
      obtain ⟨remainder, dropped, same⟩ := Option.map_eq_some_iff.mp found
      cases same
      exact length_dropLead _ _ _ dropped
    all_goals cases found <;> exact Nat.le_refl _

private theorem shorter_after_read? {characters rest after : List Char} {first : Char}
    {token : Token} (remaining : characters.dropWhile isGap = first :: rest)
    (found : read? first rest = some (token, after)) : after.length < characters.length := by
  have bound := length_read? first rest after token found
  have whole := length_dropWhile_le isGap characters
  rw [remaining, List.length_cons] at whole
  omega

def scan? (earlier : List Token) (characters : List Char) : Option (List Token) :=
  match remaining : characters.dropWhile isGap with
  | [] => some earlier.reverse
  | first :: rest =>
      match found : read? first rest with
      | none => none
      | some (token, after) =>
          have _shorter := shorter_after_read? remaining found
          scan? (token :: earlier) after
termination_by characters.length

def ofText? (text : String) : Option (List Token) :=
  scan? [] text.toList

/-! ### Writing -/

def escape (character : Char) : List Char :=
  match character with
  | '"' => ['\\', '"']
  | '\\' => ['\\', '\\']
  | '\x08' => ['\\', 'b']
  | '\x0c' => ['\\', 'f']
  | '\n' => ['\\', 'n']
  | '\r' => ['\\', 'r']
  | '\t' => ['\\', 't']
  | _ =>
      if character.toNat < 0x20 then
        ['\\', 'u', '0', '0'] ++
          [Nat.digitChar (character.toNat / 16), Nat.digitChar (character.toNat % 16)]
      else [character]

def written : Token → List Char
  | .openArray => ['[']
  | .closeArray => [']']
  | .openObject => ['\x7b']
  | .closeObject => ['\x7d']
  | .comma => [',']
  | .colon => [':']
  | .null => "null".toList
  | .truth value => if value then "true".toList else "false".toList
  | .number value => (value.map Number.text).getD []
  | .text content =>
      (content.map fun known => '"' :: known.toList.flatMap escape ++ ['"']).getD []

end Token
end Scrutineer
