import Mathlib.Data.List.Forall2
import Scrutineer.Proofs.Json.Nesting
import Scrutineer.Rule.Compiler

/-! The parameters of a rule list their members in increasing order of the keys, as
does whatever is read from text. Such rules are read back from the list that is
written for them when the whole of it nests no deeper than the limit, and a deeper
list is not read at all. An identifier that is stored as a number is read as the text
of that number. -/

namespace Scrutineer

namespace Decoder

variable {Value : Type} {level : Nat}

theorem members_ofJson {known : Members} (canonical : Json.Canonical (.object known))
    (fits : (Json.object known).nesting ≤ Document.depthLimit - level) :
    members level (.ofJson (.object known)) = .ok known := by
  have read := Document.value?_ofJson canonical fits
  unfold members json
  rw [read]
  rfl

theorem members_of_deep {known : Members}
    (deep : Document.depthLimit - level < (Json.object known).nesting) :
    members level (.ofJson (.object known)) = .error .unusable := by
  have strict := Document.isStrict_ofJson_iff (.object known) level
  have unread : Document.value? level (.ofJson (.object known)) = none := by
    rw [← Option.not_isSome_iff_eq_none, Document.isSome_value?, strict]
    exact Nat.not_le.mpr deep
  unfold members json
  rw [unread]
  rfl

theorem canonical_of_members {document : Document} {known : Members}
    (read : members level document = .ok known) : Json.Canonical (.object known) := by
  unfold members at read
  cases document with
  | object listed =>
      obtain ⟨value, kept, same⟩ := (bind_eq_ok_iff _ _ _).mp read
      unfold json at kept
      split at kept
      · rename_i held found
        cases kept
        have canonical := Document.canonical_of_value? level _ found
        cases value with
        | object inside =>
            cases same
            exact canonical
        | _ => cases same
      · cases kept
  | _ => cases read

theorem list_eq_error {decoder : Decoder Value} {items : List Document}
    (refused : ∃ item ∈ items, ∃ fault, decoder (level + 1) item = .error fault) :
    ∃ fault, list decoder level (.array items) = .error fault := by
  change ∃ fault, items.mapM (decoder (level + 1)) = .error fault
  induction items with
  | nil =>
      obtain ⟨item, impossible, _refused⟩ := refused
      cases impossible
  | cons first rest ih =>
      rw [List.mapM_cons]
      cases read : decoder (level + 1) first with
      | error fault => exact ⟨fault, rfl⟩
      | ok value =>
          obtain ⟨item, member, fault, faulty⟩ := refused
          rcases List.mem_cons.mp member with here | there
          · rw [here, read] at faulty
            cases faulty
          · obtain ⟨later, stops⟩ := ih ⟨item, there, fault, faulty⟩
            rw [stops]
            exact ⟨later, rfl⟩

end Decoder

namespace Rule

/-! ### Reading what is written -/

theorem nesting_toJson (rule : Rule) :
    rule.toJson.nesting = (Json.object rule.params).nesting + 1 := by
  simp only [toJson, Json.nesting, Json.membersNesting]
  omega

/-- Of a written rule, only the parameters may be too deep to read. -/
theorem decoder_toJson (rule : Rule) (level : Nat) :
    decoder level (.ofJson rule.toJson) =
      (Decoder.members (level + 1) (.ofJson (.object rule.params))).map
        fun params => { rule with params } := by
  have members : List.foldlM (shape.readMember (level + 1)) shape.start
      (Document.ofMembers [("id", .text rule.id), ("strategy", .text rule.strategy),
        ("params", .object rule.params)]) =
      (Decoder.members (level + 1) (.ofJson (.object rule.params))).map fun params =>
        { id := some rule.id, strategy := some rule.strategy, params := some params } := by
    refine (Decoder.Shape.foldlM_readMember_cons rfl rfl rfl).trans ?_
    refine (Decoder.Shape.foldlM_readMember_cons rfl rfl rfl).trans ?_
    -- Both texts are read as they are, so the parameters alone decide.
    rw [Document.ofMembers, List.foldlM_cons]
    change ((Decoder.members (level + 1) (.ofJson (.object rule.params)) >>= _) >>= _) >>= _ = _
    cases Decoder.members (level + 1) (.ofJson (.object rule.params)) with
    | error fault => rfl
    | ok params => rfl
  change List.foldlM (shape.readMember (level + 1)) shape.start _ >>= shape.finish = _
  rw [members]
  cases Decoder.members (level + 1) (.ofJson (.object rule.params)) with
  | error fault => rfl
  | ok params => rfl

def listToJson (rules : List Rule) : Json :=
  .array (rules.map toJson)

theorem listDecoder_toJson {rules : List Rule}
    (canonical : ∀ rule ∈ rules, Json.Canonical (.object rule.params))
    (fits : (listToJson rules).nesting ≤ Document.depthLimit) :
    listDecoder 0 (.ofJson (listToJson rules)) = .ok rules := by
  apply Decoder.list_ofJson
  intro rule member
  have inside : Json.itemsNesting (rules.map toJson) ≤ Document.depthLimit - 1 :=
    Nat.le_sub_one_of_lt fits
  have small := (Json.itemsNesting_le_iff _ _).mp inside rule.toJson (List.mem_map_of_mem member)
  rw [nesting_toJson] at small
  have room : (Json.object rule.params).nesting ≤ Document.depthLimit - (1 + 1) :=
    Nat.le_sub_one_of_lt small
  rw [decoder_toJson, Decoder.members_ofJson (canonical rule member) room]
  rfl

theorem listDecoder_of_deep {rules : List Rule}
    (deep : Document.depthLimit < (listToJson rules).nesting) :
    ∃ fault, listDecoder 0 (.ofJson (listToJson rules)) = .error fault := by
  have limit : Document.depthLimit = 127 := rfl
  have outside : ¬Json.itemsNesting (rules.map toJson) ≤ Document.depthLimit - 1 := by
    rw [listToJson, Json.nesting] at deep
    omega
  rw [Json.itemsNesting_le_iff, List.forall_mem_map] at outside
  simp only [Classical.not_forall, Nat.not_le] at outside
  -- Some rule is too deep, and in it only the parameters can be.
  obtain ⟨rule, member, large⟩ := outside
  rw [nesting_toJson] at large
  have noRoom : Document.depthLimit - (1 + 1) < (Json.object rule.params).nesting := by
    omega
  rw [listToJson, Document.ofJson, Document.ofItems_eq_map, List.map_map]
  refine Decoder.list_eq_error ⟨_, List.mem_map_of_mem member, .unusable, ?_⟩
  change decoder 1 (.ofJson rule.toJson) = _
  rw [decoder_toJson, Decoder.members_of_deep noRoom]
  rfl

theorem canonical_of_decoder {level : Nat} {document : Document} {rule : Rule}
    (decoded : decoder level document = .ok rule) : Json.Canonical (.object rule.params) := by
  have empty : Json.Canonical (.object []) := by
    refine .object [] List.Pairwise.nil fun member impossible => ?_
    cases impossible
  have keeps : ∀ field ∈ shape.fields,
      field.Keeps fun draft => Json.Canonical (.object (draft.params.getD [])) := by
    intro field member level document set draft reads kept
    simp only [shape, List.mem_cons, List.not_mem_nil, or_false] at member
    -- Only the third field sets the parameters.
    rcases member with rfl | rfl | rfl
    · obtain ⟨id, _read, same⟩ := (Decoder.bind_eq_ok_iff _ _ _).mp reads
      cases same
      exact kept
    · obtain ⟨strategy, _read, same⟩ := (Decoder.bind_eq_ok_iff _ _ _).mp reads
      cases same
      exact kept
    · obtain ⟨params, read, same⟩ := (Decoder.bind_eq_ok_iff _ _ _).mp reads
      cases same
      exact Decoder.canonical_of_members read
  obtain ⟨draft, kept, finished⟩ := Decoder.Shape.exists_draft_of_decoder keeps empty decoded
  obtain ⟨id, _identified, finished⟩ := (Decoder.bind_eq_ok_iff _ _ _).mp finished
  obtain ⟨strategy, _named, same⟩ := (Decoder.bind_eq_ok_iff _ _ _).mp finished
  cases same
  exact kept

theorem canonical_of_listDecoder {text : String} {rules : List Rule}
    (read : listDecoder.ofText text = .ok rules) :
    ∀ rule ∈ rules, Json.Canonical (.object rule.params) := by
  obtain ⟨document, _found, decoded⟩ := (Decoder.ofText_eq_ok_iff _ _ _).mp read
  exact Decoder.forall_of_list (fun _document _rule => canonical_of_decoder) decoded

/-! ### Identifiers that are numbers -/

/-- Documents of rules that are alike, except that the first may have a number
for its identifier where the second has the text of that number. -/
inductive IdSpelled : Document → Document → Prop where
  | same (document : Document) : IdSpelled document document
  | member (before after : List (Option String × Document)) (number : Number) :
      IdSpelled (.object (before ++ (some "id", .number (some number)) :: after))
        (.object (before ++ (some "id", .text (some (String.ofList number.text))) :: after))
  | item (number : Number) (rest : List Document) :
      IdSpelled (.array (.number (some number) :: rest))
        (.array (.text (some (String.ofList number.text)) :: rest))

variable {numbered named : Document}

theorem IdSpelled.decoder_eq (spelled : IdSpelled numbered named) (level : Nat) :
    decoder level numbered = decoder level named := by
  cases spelled with
  | same document => rfl
  | member before after number =>
      change List.foldlM (shape.readMember (level + 1)) shape.start _ >>= shape.finish =
        List.foldlM (shape.readMember (level + 1)) shape.start _ >>= shape.finish
      rw [List.foldlM_append, List.foldlM_append]
      rfl
  | item number rest => rfl

theorem IdSpelled.isStrict_eq (spelled : IdSpelled numbered named) (level : Nat) :
    numbered.isStrict level = named.isStrict level := by
  cases spelled with
  | same document => rfl
  | member before after number =>
      rw [Document.isStrict, Document.isStrict]
      congr 1
      rw [Bool.eq_iff_iff, Document.membersAreStrict_eq_true_iff,
        Document.membersAreStrict_eq_true_iff]
      simp only [List.forall_mem_append, List.forall_mem_cons, Document.isStrict]
      rfl
  | item number rest => rfl

theorem listDecoder_of_forall₂ {items others : List Document}
    (spelled : List.Forall₂ IdSpelled items others) :
    listDecoder 0 (.array items) = listDecoder 0 (.array others) := by
  change items.mapM (decoder 1) = others.mapM (decoder 1)
  induction spelled with
  | nil => rfl
  | cons first _rest ih => rw [List.mapM_cons, List.mapM_cons, first.decoder_eq, ih]

theorem isStrict_of_forall₂ {items others : List Document}
    (spelled : List.Forall₂ IdSpelled items others) :
    (Document.array items).isStrict 0 = (Document.array others).isStrict 0 := by
  rw [Document.isStrict, Document.isStrict]
  congr 1
  induction spelled with
  | nil => rfl
  | cons first _rest ih => rw [Document.areStrict, Document.areStrict, first.isStrict_eq, ih]

end Rule

namespace Compiler

variable (compiler : Compiler)

theorem compileText_congr {text other : String} {document another : Document}
    (read : Document.ofText? text = some document)
    (readOther : Document.ofText? other = some another)
    (decoded : Rule.listDecoder 0 document = Rule.listDecoder 0 another)
    (strict : document.isStrict 0 = another.isStrict 0) :
    compiler.compileText text = compiler.compileText other := by
  unfold compileText Decoder.ofText
  rw [read, readOther]
  dsimp only
  rw [decoded, strict]

theorem compileText_of_deep {rules : List Rule}
    (deep : Document.depthLimit < (Rule.listToJson rules).nesting) :
    compiler.compileText (Rule.listToJson rules).compact =
      (.error (.unreadableRules .notJson), compiler) := by
  obtain ⟨fault, refused⟩ := Rule.listDecoder_of_deep deep
  have notStrict : ¬(Document.ofJson (Rule.listToJson rules)).isStrict 0 = true := by
    rw [Document.isStrict_ofJson_iff]
    exact Nat.not_le.mpr deep
  unfold compileText Decoder.ofText
  rw [Document.ofText?_compact]
  dsimp only
  rw [refused]
  dsimp only
  rw [if_neg notStrict]

theorem compileText_of_read {text : String} {rules : List Rule}
    (read : Rule.listDecoder.ofText text = .ok rules) :
    compiler.compileText text = compiler.compileSet rules := by
  unfold compileText
  rw [read]

theorem compileText_toJson {rules : List Rule}
    (canonical : ∀ rule ∈ rules, Json.Canonical (.object rule.params))
    (fits : (Rule.listToJson rules).nesting ≤ Document.depthLimit) :
    compiler.compileText (Rule.listToJson rules).compact = compiler.compileSet rules := by
  have decoded : Rule.listDecoder.ofText (Rule.listToJson rules).compact = .ok rules :=
    (Decoder.ofText_eq_ok_iff _ _ _).mpr
      ⟨_, Document.ofText?_compact _, Rule.listDecoder_toJson canonical fits⟩
  exact compiler.compileText_of_read decoded

/-- Rules are compiled from the text of their list as they are without a text,
whenever the list nests within the limit; a deeper list is no JSON text to the
compiler. An identifier may be a number in place of the text of that number. What
was read from a text has the order of keys that this asks for, and so it may be
written anew in place of the text. -/
theorem compileText_agrees_with_compileSet :
    (∀ rules : List Rule, (∀ rule ∈ rules, Json.Canonical (.object rule.params)) →
      (Rule.listToJson rules).nesting ≤ Document.depthLimit →
      compiler.compileText (Rule.listToJson rules).compact = compiler.compileSet rules) ∧
    (∀ rules : List Rule, Document.depthLimit < (Rule.listToJson rules).nesting →
      compiler.compileText (Rule.listToJson rules).compact =
        (.error (.unreadableRules .notJson), compiler)) ∧
    (∀ (numbered named : String) (items others : List Document),
      Document.ofText? numbered = some (.array items) →
      Document.ofText? named = some (.array others) →
      List.Forall₂ Rule.IdSpelled items others →
      compiler.compileText numbered = compiler.compileText named) ∧
    ∀ (text : String) (rules : List Rule), Rule.listDecoder.ofText text = .ok rules →
      (∀ rule ∈ rules, Json.Canonical (.object rule.params)) ∧
      ((Rule.listToJson rules).nesting ≤ Document.depthLimit →
        compiler.compileText (Rule.listToJson rules).compact = compiler.compileText text) := by
  refine ⟨fun rules canonical fits => compiler.compileText_toJson canonical fits,
    fun rules deep => compiler.compileText_of_deep deep, ?_, ?_⟩
  · intro numbered named items others readNumbered readNamed spelled
    exact compiler.compileText_congr readNumbered readNamed (Rule.listDecoder_of_forall₂ spelled)
      (Rule.isStrict_of_forall₂ spelled)
  · intro text rules read
    have canonical := Rule.canonical_of_listDecoder read
    refine ⟨canonical, fun fits => ?_⟩
    rw [compiler.compileText_toJson canonical fits, compiler.compileText_of_read read]

def engineRule : Rule :=
  { id := "7", strategy := "part_exists", params := [("part", .text "engine")] }

def numberedEngineRule : Json :=
  .object [("id", .number (.ofWord 7)), ("strategy", .text "part_exists"),
    ("params", .object [("part", .text "engine")])]

/-- Written in a list, this rule is one too deep. -/
def deepRule : Rule :=
  { engineRule with params := [("part", Nat.repeat (fun inner => .array [inner]) 125 .null)] }

/-- The rule with the number seven for its identifier is compiled from its text
as the rule that is named by that number, and a rule that is one too deep is not
read. -/
theorem compileText_agrees_for_engine :
    fresh.compileText (Json.array [numberedEngineRule]).compact =
        fresh.compileSet [engineRule] ∧
      fresh.compileText (Rule.listToJson [deepRule]).compact =
        (.error (.unreadableRules .notJson), fresh) := by
  have agree := compileText_agrees_with_compileSet fresh
  have canonical : ∀ rule ∈ [engineRule], Json.Canonical (.object rule.params) := by
    intro rule member
    rw [List.mem_singleton.mp member]
    refine .object _ (List.pairwise_singleton _ _) fun param within => ?_
    rw [List.mem_singleton.mp within]
    exact .text "engine"
  have shallow : (Rule.listToJson [engineRule]).nesting ≤ Document.depthLimit := by
    decide
  have deep : Document.depthLimit < (Rule.listToJson [deepRule]).nesting := by
    decide +kernel
  have spelled : fresh.compileText (Json.array [numberedEngineRule]).compact =
      fresh.compileText (Rule.listToJson [engineRule]).compact :=
    agree.2.2.1 _ _ _ _ (Document.ofText?_compact (.array [numberedEngineRule]))
      (Document.ofText?_compact (Rule.listToJson [engineRule]))
      (.cons (.member [] _ (.ofWord 7)) .nil)
  exact ⟨spelled.trans (agree.1 [engineRule] canonical shallow), agree.2.1 [deepRule] deep⟩

end Compiler
end Scrutineer
