import Scrutineer.Json.Printer
import Scrutineer.Proofs.Json.Number

/-! The text of a token is read as that token, whatever follows; only a number must
not be followed by a character that would go on with it. In the text of a value each
number is followed by a mark, by a new line or by the end, so the scan gives back just
the tokens that were written, in the compact form and in the spread one. -/

namespace Scrutineer
namespace Token

/-! ### Texts -/

/-- Pieces in reverse that are joined to certain characters. -/
def Spells (pieces : List Piece) (characters : List Char) : Prop :=
  ∀ later others, joinPieces? later (pieces ++ others) = joinPieces? (characters ++ later) others

theorem spells_character (character : Char) : Spells [.character character] [character] :=
  fun _later _others => rfl

theorem spells_code {character : Char} (control : character.toNat < 0x20) :
    Spells [.code character.toNat] [character] := by
  intro later others
  have notLow : ¬(0xDC00 ≤ character.toNat ∧ character.toNat < 0xE000) := by omega
  have notHigh : ¬(0xD800 ≤ character.toNat ∧ character.toNat < 0xDC00) := by omega
  rw [List.singleton_append, joinPieces?.eq_def]
  dsimp only
  rw [if_neg notLow, if_neg notHigh, Char.ofNat_toNat]
  rfl

theorem Spells.append {last first : List Piece} {front back : List Char}
    (behind : Spells last back) (before : Spells first front) :
    Spells (last ++ first) (front ++ back) := by
  intro later others
  rw [List.append_assoc, behind, before, List.append_assoc]

theorem hexDigit?_digitChar {digit : Nat} (small : digit < 16) :
    hexDigit? (Nat.digitChar digit) = some digit := by
  have all : ∀ digit : Fin 16, hexDigit? (Nat.digitChar digit) = some digit.val := by decide
  exact all ⟨digit, small⟩

theorem scanText_code {character : Char} (control : character.toNat < 0x20)
    (earlier : List Piece) (rest : List Char) :
    scanText earlier ('\\' :: 'u' :: '0' :: '0' :: Nat.digitChar (character.toNat / 16) ::
      Nat.digitChar (character.toNat % 16) :: rest) =
        scanText (.code character.toNat :: earlier) rest := by
  have zero : hexDigit? '0' = some 0 := by decide
  have code : ((0 * 16 + 0) * 16 + character.toNat / 16) * 16 + character.toNat % 16 =
      character.toNat := by omega
  have read : hexCode? '0' '0' (Nat.digitChar (character.toNat / 16))
      (Nat.digitChar (character.toNat % 16)) = some character.toNat := by
    rw [hexCode?, zero, hexDigit?_digitChar (by omega), hexDigit?_digitChar (by omega)]
    exact congrArg some code
  rw [scanText, read]

theorem scanText_plain {character : Char} (quote : character ≠ '"') (escapes : character ≠ '\\')
    (printed : ¬character.toNat < 0x20) (earlier : List Piece) (rest : List Char) :
    scanText earlier (character :: rest) = scanText (.character character :: earlier) rest := by
  have plain : (decide (character.toNat < 0x20) || character == '\\') = false := by
    rw [Bool.or_eq_false_iff, decide_eq_false_iff_not, beq_eq_false_iff_ne]
    exact ⟨printed, escapes⟩
  rw [scanText.eq_def]
  split
  · rename_i impossible
    cases impossible
  · rename_i same
    cases same
    exact absurd rfl quote
  · rename_i same
    cases same
    exact absurd rfl escapes
  · rename_i same
    cases same
    exact absurd rfl escapes
  · rename_i same
    cases same
    rw [plain]
    rfl

theorem exists_piece (character : Char) : ∃ piece, Spells [piece] [character] ∧
    ∀ earlier rest, scanText earlier (escape character ++ rest) =
      scanText (piece :: earlier) rest := by
  unfold escape
  split
  case h_8 quote slash _ _ _ _ _ =>
    by_cases control : character.toNat < 0x20
    · rw [if_pos control]
      exact ⟨_, spells_code control, scanText_code control⟩
    · rw [if_neg control]
      exact ⟨_, spells_character character, scanText_plain quote slash control⟩
  all_goals exact ⟨_, spells_character _, fun _earlier _rest => rfl⟩

theorem exists_pieces (content : List Char) (earlier : List Piece) (rest : List Char) :
    ∃ pieces, Spells pieces content ∧
      scanText earlier (content.flatMap escape ++ '"' :: rest) = some (pieces ++ earlier, rest) := by
  induction content generalizing earlier with
  | nil => exact ⟨[], fun _later _others => rfl, rfl⟩
  | cons character content ih =>
      obtain ⟨piece, one, scanned⟩ := exists_piece character
      obtain ⟨pieces, others, scannedOn⟩ := ih (piece :: earlier)
      refine ⟨pieces ++ [piece], others.append one, ?_⟩
      rw [List.flatMap_cons, List.append_assoc, scanned, scannedOn, List.append_assoc]
      rfl

theorem read?_text (content : String) (rest : List Char) :
    read? '"' (content.toList.flatMap escape ++ '"' :: rest) = some (.text (some content), rest) := by
  obtain ⟨pieces, spells, scanned⟩ := exists_pieces content.toList [] rest
  have joined : joinPieces? [] pieces = some content.toList := by
    have whole := spells [] []
    rw [List.append_nil, List.append_nil] at whole
    exact whole
  change (scanText [] (content.toList.flatMap escape ++ '"' :: rest)).map _ = _
  rw [scanned, List.append_nil, Option.map_some]
  dsimp only
  rw [joined, Option.map_some, String.ofList_toList]

/-! ### Numbers, marks and words -/

def Ends (rest : List Char) : Prop :=
  rest.takeWhile Number.isLiteralCharacter = []

theorem ends_cons {mark : Char} (other : Number.isLiteralCharacter mark = false)
    (rest : List Char) : Ends (mark :: rest) :=
  List.takeWhile_cons_of_neg (by rw [other]; decide)

theorem Ends.dropWhile {rest : List Char} (ends : Ends rest) :
    rest.dropWhile Number.isLiteralCharacter = rest := by
  have whole := List.takeWhile_append_dropWhile (p := Number.isLiteralCharacter) (l := rest)
  rw [show rest.takeWhile Number.isLiteralCharacter = [] from ends, List.nil_append] at whole
  exact whole

theorem read?_number (value : Number) {rest : List Char} (ends : Ends rest) :
    ∃ first tail, value.text = first :: tail ∧ isGap first = false ∧
      read? first (tail ++ rest) = some (.number (some value), rest) := by
  obtain ⟨first, tail, shape, start, literal⟩ := value.text_shape
  have known := value.ofLiteral?_text
  have taken : (tail ++ rest).takeWhile Number.isLiteralCharacter = tail := by
    rw [List.takeWhile_append_of_pos literal, show rest.takeWhile _ = [] from ends, List.append_nil]
  have left : (tail ++ rest).dropWhile Number.isLiteralCharacter = rest := by
    rw [List.dropWhile_append_of_pos literal, ends.dropWhile]
  rw [shape] at known
  refine ⟨first, tail, shape, ?_, ?_⟩
  · cases gap : isGap first with
    | false => rfl
    | true =>
        unfold isGap at gap
        simp only [Bool.or_eq_true, beq_iff_eq] at gap
        rcases gap with ((rfl | rfl) | rfl) | rfl <;> cases start
  · unfold read?
    rw [if_pos start]
    dsimp only
    rw [taken, left, known, Option.map_some]

/-- Tokens that are read whatever follows: all but numbers, and with a value. -/
def IsFree : Token → Prop
  | .number _ => False
  | .text content => content.isSome = true
  | _ => True

theorem read?_free {token : Token} (free : token.IsFree) (rest : List Char) :
    ∃ first tail, token.written = first :: tail ∧ isGap first = false ∧
      read? first (tail ++ rest) = some (token, rest) := by
  cases token with
  | number value => cases free
  | text content =>
      cases content with
      | none => cases free
      | some content =>
          refine ⟨'"', content.toList.flatMap escape ++ ['"'], rfl, rfl, ?_⟩
          rw [List.append_assoc]
          exact read?_text content rest
  | null => exact ⟨'n', "ull".toList, rfl, rfl, rfl⟩
  | truth value =>
      cases value with
      | true => exact ⟨'t', "rue".toList, rfl, rfl, rfl⟩
      | false => exact ⟨'f', "alse".toList, rfl, rfl, rfl⟩
  | _ => exact ⟨_, [], rfl, rfl, rfl⟩

/-! ### Scanning -/

theorem scan?_cons {first : Char} {rest after : List Char} {token : Token}
    (visible : isGap first = false) (found : read? first rest = some (token, after))
    (earlier : List Token) : scan? earlier (first :: rest) = scan? (token :: earlier) after := by
  have start : (first :: rest).dropWhile isGap = first :: rest :=
    List.dropWhile_cons_of_neg (by rw [visible]; decide)
  rw [scan?]
  split
  · rename_i empty
    rw [start] at empty
    cases empty
  · rename_i other others same
    rw [start] at same
    cases same
    split
    · rename_i missing
      rw [found] at missing
      cases missing
    · rename_i read behind again
      rw [found] at again
      cases again
      rfl

theorem scan?_nil (earlier : List Token) : scan? earlier [] = some earlier.reverse := by
  rw [scan?]
  rfl

theorem scan?_gap {gap : Char} (isGap : isGap gap = true) (earlier : List Token)
    (rest : List Char) : scan? earlier (gap :: rest) = scan? earlier rest := by
  have start : (gap :: rest).dropWhile Token.isGap = rest.dropWhile Token.isGap :=
    List.dropWhile_cons_of_pos isGap
  rw [scan?.eq_def, scan?.eq_def earlier rest]
  dsimp only
  rw [start]

/-- Characters that are read as certain tokens, unless a literal at their end is
made longer. -/
def Scans (characters : List Char) (tokens : List Token) : Prop :=
  ∀ earlier rest, Ends rest →
    scan? earlier (characters ++ rest) = scan? (tokens.reverse ++ earlier) rest

def Stops (characters : List Char) : Prop :=
  ∀ rest, Ends rest → Ends (characters ++ rest)

theorem stops_cons {mark : Char} (other : Number.isLiteralCharacter mark = false)
    (characters : List Char) : Stops (mark :: characters) :=
  fun rest _ends => ends_cons other (characters ++ rest)

theorem Scans.nil : Scans [] [] :=
  fun _earlier _rest _ends => rfl

theorem Scans.number (value : Number) : Scans value.text [.number (some value)] := by
  intro earlier rest ends
  obtain ⟨first, tail, shape, visible, found⟩ := read?_number value ends
  rw [shape]
  exact scan?_cons visible found earlier

theorem Scans.cons {token : Token} {characters : List Char} {tokens : List Token}
    (free : token.IsFree) (scans : Scans characters tokens) :
    Scans (token.written ++ characters) (token :: tokens) := by
  intro earlier rest ends
  obtain ⟨first, tail, shape, visible, found⟩ := read?_free free (characters ++ rest)
  rw [List.append_assoc, shape, List.cons_append, scan?_cons visible found, scans _ _ ends,
    List.reverse_cons, List.append_assoc]
  rfl

theorem Scans.single {token : Token} (free : token.IsFree) : Scans token.written [token] := by
  have scans := Scans.cons free Scans.nil
  rw [List.append_nil] at scans
  exact scans

theorem Scans.mark {token : Token} {mark : Char} {characters : List Char} {tokens : List Token}
    (written : token.written = [mark]) (free : token.IsFree) (scans : Scans characters tokens) :
    Scans (mark :: characters) (token :: tokens) := by
  have whole := Scans.cons free scans
  rw [written] at whole
  exact whole

theorem Scans.gap {gap : Char} {characters : List Char} {tokens : List Token}
    (isGap : isGap gap = true) (scans : Scans characters tokens) :
    Scans (gap :: characters) tokens := by
  intro earlier rest ends
  rw [List.cons_append, scan?_gap isGap]
  exact scans earlier rest ends

theorem Scans.append {front back : List Char} {before behind : List Token}
    (frontScans : Scans front before) (backScans : Scans back behind) (stops : Stops back) :
    Scans (front ++ back) (before ++ behind) := by
  intro earlier rest ends
  rw [List.append_assoc, frontScans _ _ (stops rest ends), backScans _ _ ends,
    List.reverse_append, List.append_assoc]

end Token

namespace Json

/-- A property of all values, by way of the items and members inside. -/
@[elab_as_elim]
theorem induction {motive : Json → Prop} (null : motive .null)
    (truth : ∀ value, motive (.truth value)) (number : ∀ value, motive (.number value))
    (text : ∀ content, motive (.text content))
    (array : ∀ items, (∀ item ∈ items, motive item) → motive (.array items))
    (object : ∀ members, (∀ member ∈ members, motive member.2) → motive (.object members)) :
    ∀ value, motive value
  | .null => null
  | .truth value => truth value
  | .number value => number value
  | .text content => text content
  | .array items => array items fun item _member =>
      Json.induction null truth number text array object item
  | .object members => object members fun member _within =>
      Json.induction null truth number text array object member.2
termination_by value => sizeOf value
decreasing_by
  · have smaller := List.sizeOf_lt_of_mem _member
    rw [Json.array.sizeOf_spec]
    omega
  · have smaller := List.sizeOf_lt_of_mem _within
    have inside : sizeOf member.2 < sizeOf member := by
      cases member
      simp only [Prod.mk.sizeOf_spec]
      omega
    rw [Json.object.sizeOf_spec]
    omega

/-! ### The compact form -/

theorem scans_itemTokens {items : List Json}
    (each : ∀ item ∈ items, Token.Scans (item.tokens.flatMap Token.written) item.tokens) :
    Token.Scans ((itemTokens items).flatMap Token.written) (itemTokens items) := by
  induction items with
  | nil => exact Token.Scans.nil
  | cons item rest ih =>
      have first := each item List.mem_cons_self
      have others := ih fun other member => each other (List.mem_cons_of_mem item member)
      cases rest with
      | nil => exact first
      | cons next rest =>
          have separated : Token.Scans (',' :: (itemTokens (next :: rest)).flatMap Token.written)
              (.comma :: itemTokens (next :: rest)) :=
            Token.Scans.mark rfl trivial others
          rw [itemTokens, List.flatMap_append]
          exact first.append separated (Token.stops_cons rfl _)

theorem scans_memberTokens {members : Members}
    (each : ∀ member ∈ members,
      Token.Scans (member.2.tokens.flatMap Token.written) member.2.tokens) :
    Token.Scans ((memberTokens members).flatMap Token.written) (memberTokens members) := by
  induction members with
  | nil => exact Token.Scans.nil
  | cons member rest ih =>
      obtain ⟨key, value⟩ := member
      have first : Token.Scans (value.tokens.flatMap Token.written) value.tokens :=
        each (key, value) List.mem_cons_self
      have others := ih fun other within => each other (List.mem_cons_of_mem (key, value) within)
      have keyed {characters : List Char} {tokens : List Token}
          (scans : Token.Scans characters tokens) :
          Token.Scans (Token.written (.text (some key)) ++ ':' :: characters)
            (.text (some key) :: .colon :: tokens) :=
        Token.Scans.cons rfl (Token.Scans.mark rfl trivial scans)
      cases rest with
      | nil => exact keyed first
      | cons next rest =>
          have separated : Token.Scans (',' :: (memberTokens (next :: rest)).flatMap Token.written)
              (.comma :: memberTokens (next :: rest)) :=
            Token.Scans.mark rfl trivial others
          rw [memberTokens, List.flatMap_cons, List.flatMap_cons, List.flatMap_append]
          exact keyed (first.append separated (Token.stops_cons rfl _))

theorem scans_tokens (value : Json) :
    Token.Scans (value.tokens.flatMap Token.written) value.tokens := by
  induction value using Json.induction with
  | null => exact Token.Scans.cons trivial Token.Scans.nil
  | truth value => exact Token.Scans.cons trivial Token.Scans.nil
  | number value =>
      have written : (Json.number value).tokens.flatMap Token.written = value.text :=
        List.append_nil value.text
      rw [written]
      exact Token.Scans.number value
  | text content => exact Token.Scans.cons rfl Token.Scans.nil
  | array items each =>
      have closed : Token.Scans [']'] [.closeArray] :=
        Token.Scans.mark rfl trivial Token.Scans.nil
      rw [tokens, List.flatMap_cons, List.flatMap_append]
      exact Token.Scans.cons trivial
        ((scans_itemTokens each).append closed (Token.stops_cons rfl []))
  | object members each =>
      have closed : Token.Scans ['\x7d'] [.closeObject] :=
        Token.Scans.mark rfl trivial Token.Scans.nil
      rw [tokens, List.flatMap_cons, List.flatMap_append]
      exact Token.Scans.cons trivial
        ((scans_memberTokens each).append closed (Token.stops_cons rfl []))

theorem ofText?_of_scans {characters : List Char} {tokens : List Token}
    (scans : Token.Scans characters tokens) :
    Token.ofText? (String.ofList characters) = some tokens := by
  have scanned := scans [] [] rfl
  rw [List.append_nil, List.append_nil, Token.scan?_nil, List.reverse_reverse] at scanned
  rw [Token.ofText?, String.toList_ofList, scanned]

theorem tokens_compact (value : Json) : Token.ofText? value.compact = some value.tokens :=
  ofText?_of_scans value.scans_tokens

/-! ### The spread form -/

theorem scans_line {characters : List Char} {tokens : List Token} (level : Nat)
    (scans : Token.Scans characters tokens) :
    Token.Scans ('\n' :: margin level ++ characters) tokens := by
  refine Token.Scans.gap rfl ?_
  unfold margin
  induction 2 * level with
  | zero => exact scans
  | succ width ih =>
      rw [List.replicate_succ]
      exact Token.Scans.gap rfl ih

theorem scans_spreadItems {level : Nat} {items : List Json}
    (each : ∀ item ∈ items, Token.Scans (spread level item) item.tokens) :
    Token.Scans (spreadItems level items) (itemTokens items) := by
  induction items with
  | nil => exact Token.Scans.nil
  | cons item rest ih =>
      have first := scans_line level (each item List.mem_cons_self)
      have others := ih fun other member => each other (List.mem_cons_of_mem item member)
      cases rest with
      | nil => exact first
      | cons next rest =>
          have separated : Token.Scans (',' :: spreadItems level (next :: rest))
              (.comma :: itemTokens (next :: rest)) :=
            Token.Scans.mark rfl trivial others
          exact first.append separated (Token.stops_cons rfl _)

theorem scans_spreadMembers {level : Nat} {members : Members}
    (each : ∀ member ∈ members, Token.Scans (spread level member.2) member.2.tokens) :
    Token.Scans (spreadMembers level members) (memberTokens members) := by
  induction members with
  | nil => exact Token.Scans.nil
  | cons member rest ih =>
      obtain ⟨key, value⟩ := member
      have first : Token.Scans (spread level value) value.tokens :=
        each (key, value) List.mem_cons_self
      have others := ih fun other within => each other (List.mem_cons_of_mem (key, value) within)
      have keyed {characters : List Char} {tokens : List Token}
          (scans : Token.Scans characters tokens) :
          Token.Scans ('\n' :: margin level ++
              (Token.written (.text (some key)) ++ ':' :: ' ' :: characters))
            (.text (some key) :: .colon :: tokens) :=
        scans_line level
          (Token.Scans.cons rfl (Token.Scans.mark rfl trivial (Token.Scans.gap rfl scans)))
      cases rest with
      | nil =>
          rw [spreadMembers, List.append_assoc]
          exact keyed first
      | cons next rest =>
          have separated : Token.Scans (',' :: spreadMembers level (next :: rest))
              (.comma :: memberTokens (next :: rest)) :=
            Token.Scans.mark rfl trivial others
          rw [spreadMembers, List.append_assoc, List.append_assoc]
          exact keyed (first.append separated (Token.stops_cons rfl _))

theorem scans_spread (value : Json) (level : Nat) :
    Token.Scans (spread level value) value.tokens := by
  induction value using Json.induction generalizing level with
  | null => exact @Token.Scans.single .null trivial
  | truth value => exact @Token.Scans.single (.truth value) trivial
  | number value => exact Token.Scans.number value
  | text content => exact @Token.Scans.single (.text (some content)) rfl
  | array items each =>
      have opened {characters : List Char} {tokens : List Token}
          (scans : Token.Scans characters tokens) :
          Token.Scans ('[' :: characters) (.openArray :: tokens) :=
        Token.Scans.mark rfl trivial scans
      cases items with
      | nil => exact opened (Token.Scans.mark rfl trivial Token.Scans.nil)
      | cons item rest =>
          have inside := scans_spreadItems fun other member => each other member (level + 1)
          have closed : Token.Scans ('\n' :: margin level ++ [']']) [.closeArray] :=
            scans_line level (Token.Scans.mark rfl trivial Token.Scans.nil)
          rw [spread, List.append_assoc]
          exact opened (inside.append closed (Token.stops_cons rfl _))
  | object members each =>
      have opened {characters : List Char} {tokens : List Token}
          (scans : Token.Scans characters tokens) :
          Token.Scans ('\x7b' :: characters) (.openObject :: tokens) :=
        Token.Scans.mark rfl trivial scans
      cases members with
      | nil => exact opened (Token.Scans.mark rfl trivial Token.Scans.nil)
      | cons member rest =>
          have inside := scans_spreadMembers fun other within => each other within (level + 1)
          have closed : Token.Scans ('\n' :: margin level ++ ['\x7d']) [.closeObject] :=
            scans_line level (Token.Scans.mark rfl trivial Token.Scans.nil)
          rw [spread, List.append_assoc]
          exact opened (inside.append closed (Token.stops_cons rfl _))

/-- Spread over lines or not, a value is read as the same tokens. -/
theorem tokens_pretty (value : Json) : Token.ofText? value.pretty = some value.tokens :=
  ofText?_of_scans (value.scans_spread 0)

end Json
end Scrutineer
