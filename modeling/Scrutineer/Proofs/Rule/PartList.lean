import Scrutineer.Proofs.Rule.Reader
import Scrutineer.Proofs.Text.Spelling

/-! A set of names is written as one text with commas in it, or as an array of such
texts. Either way the names are the pieces between the commas, without the characters
that no name has. Pieces of which nothing is left do not count; all others do, in
their order and as often as they are written. -/

namespace Scrutineer
namespace Name

/-! ### The pieces of a text -/

def IsNameCharacter (character : Char) : Prop :=
  '0' ≤ character ∧ character ≤ '9' ∨ 'A' ≤ character ∧ character ≤ 'Z' ∨
    'a' ≤ character ∧ character ≤ 'z' ∨ character = '.' ∨ character = '-'

instance (character : Char) : Decidable (IsNameCharacter character) :=
  inferInstanceAs (Decidable (_ ∨ _))

def cleaned (piece : String) : String :=
  String.ofList (piece.toList.filter fun character => IsNameCharacter character)

structure ArePieces (text : String) (pieces : List String) : Prop where
  some : pieces ≠ []
  apart : ∀ piece ∈ pieces, ',' ∉ piece.toList
  joined : String.intercalate "," pieces = text

theorem isKept_iff (character : Char) :
    isKept character = true ↔ IsNameCharacter character := by
  have upper : character.isUpper = true ↔ 'A' ≤ character ∧ character ≤ 'Z' := by
    unfold Char.isUpper
    rw [decide_eq_true_iff]
    exact Iff.rfl
  have lower : character.isLower = true ↔ 'a' ≤ character ∧ character ≤ 'z' := by
    unfold Char.isLower
    rw [Bool.and_eq_true, decide_eq_true_iff, decide_eq_true_iff]
    exact Iff.rfl
  have digit : character.isDigit = true ↔ '0' ≤ character ∧ character ≤ '9' := by
    unfold Char.isDigit
    rw [Bool.and_eq_true, decide_eq_true_iff, decide_eq_true_iff]
    exact Iff.rfl
  unfold isKept Char.isAlphanum Char.isAlpha IsNameCharacter
  rw [Bool.or_eq_true, Bool.or_eq_true, Bool.or_eq_true, Bool.or_eq_true, beq_iff_eq, beq_iff_eq,
    upper, lower, digit, or_comm (a := _ ∨ _) (b := '0' ≤ character ∧ _), or_assoc, or_assoc,
    or_assoc]

theorem sanitize_eq_cleaned (piece : String) : sanitize piece = cleaned piece := by
  have same : isKept = fun character => decide (IsNameCharacter character) := by
    funext character
    rw [Bool.eq_iff_iff, isKept_iff, decide_eq_true_iff]
  unfold sanitize cleaned
  rw [same]

theorem not_mem_of_mem_splitOn {separator : Char} {characters piece : List Char}
    (member : piece ∈ characters.splitOn separator) : separator ∉ piece := by
  induction characters generalizing piece with
  | nil =>
      rw [List.splitOn_nil, List.mem_singleton] at member
      rw [member]
      exact List.not_mem_nil
  | cons first rest ih =>
      rw [List.splitOn_cons_eq_if_modifyHead] at member
      by_cases same : first = separator
      · rw [same, beq_self_eq_true, if_pos rfl] at member
        rcases List.mem_cons.mp member with empty | later
        · rw [empty]
          exact List.not_mem_nil
        · exact ih later
      · rw [beq_eq_false_iff_ne.mpr same, if_neg Bool.false_ne_true] at member
        -- The character goes in front of the first piece of the rest.
        cases pieces : rest.splitOn separator with
        | nil => exact absurd pieces (List.splitOn_ne_nil separator rest)
        | cons head tail =>
            rw [pieces, List.modifyHead_cons] at member
            rcases List.mem_cons.mp member with atHead | later
            · rw [atHead, List.mem_cons]
              intro either
              rcases either with here | there
              · exact same here.symm
              · exact ih (pieces ▸ List.mem_cons_self) there
            · exact ih (pieces ▸ List.mem_cons_of_mem head later)

theorem exists_arePieces (text : String) : ∃ pieces, ArePieces text pieces := by
  refine ⟨(text.toList.splitOn ',').map String.ofList, ?_, ?_, ?_⟩
  · intro none
    exact List.splitOn_ne_nil ',' text.toList (List.map_eq_nil_iff.mp none)
  · intro piece listed
    obtain ⟨characters, member, rfl⟩ := List.mem_map.mp listed
    rw [String.toList_ofList]
    exact not_mem_of_mem_splitOn member
  · have texts : String.toList ∘ String.ofList = id := funext fun _ => String.toList_ofList
    rw [← String.toList_inj, String.toList_intercalate, List.map_map, texts, List.map_id]
    exact List.intercalate_splitOn ','

namespace ArePieces

variable {text : String} {pieces : List String}

theorem splitOn_eq (between : ArePieces text pieces) :
    text.toList.splitOn ',' = pieces.map String.toList := by
  have whole : text.toList = [','].intercalate (pieces.map String.toList) := by
    rw [← between.joined, String.toList_intercalate]
    rfl
  rw [whole]
  apply List.splitOn_intercalate
  · intro characters member
    obtain ⟨piece, listed, rfl⟩ := List.mem_map.mp member
    exact between.apart piece listed
  · exact fun none => between.some (List.map_eq_nil_iff.mp none)

theorem splitList_eq (between : ArePieces text pieces) :
    splitList text = (pieces.map cleaned).filter (· ≠ "") := by
  rw [splitList_eq_sanitized, between.splitOn_eq, List.map_map]
  congr 1
  apply List.map_congr_left
  intro piece _listed
  change sanitize (String.ofList piece.toList) = cleaned piece
  rw [String.ofList_toList, sanitize_eq_cleaned]

end ArePieces

theorem withoutBlanks_append (first rest : String) :
    withoutBlanks (first ++ rest) = withoutBlanks first ++ withoutBlanks rest := by
  unfold withoutBlanks
  rw [String.toList_append, List.filter_append, String.ofList_append]

theorem withoutBlanks_intercalate (pieces : List String) :
    String.intercalate "," (pieces.map withoutBlanks) =
      withoutBlanks (String.intercalate "," pieces) := by
  induction pieces with
  | nil => rfl
  | cons first rest ih =>
      cases rest with
      | nil => rw [List.map_singleton, String.intercalate_singleton, String.intercalate_singleton]
      | cons second others =>
          have comma : withoutBlanks "," = "," := by decide
          rw [List.map_cons, List.map_cons, String.intercalate_cons_cons,
            String.intercalate_cons_cons, withoutBlanks_append, withoutBlanks_append, comma, ← ih,
            List.map_cons]

theorem cleaned_withoutBlanks (piece : String) : cleaned (withoutBlanks piece) = cleaned piece := by
  rw [← sanitize_eq_cleaned, ← sanitize_eq_cleaned, sanitize_withoutBlanks]

/-- Blanks make no difference, wherever they stand. -/
theorem splitList_withoutBlanks (text : String) :
    splitList (withoutBlanks text) = splitList text := by
  obtain ⟨pieces, between⟩ := exists_arePieces text
  have blankless : ArePieces (withoutBlanks text) (pieces.map withoutBlanks) := by
    refine ⟨?_, ?_, ?_⟩
    · exact fun none => between.some (List.map_eq_nil_iff.mp none)
    · intro shorter listed comma
      obtain ⟨piece, member, rfl⟩ := List.mem_map.mp listed
      unfold withoutBlanks at comma
      rw [String.toList_ofList] at comma
      exact between.apart piece member (List.mem_of_mem_filter comma)
    · rw [withoutBlanks_intercalate, between.joined]
  have same : cleaned ∘ withoutBlanks = cleaned := funext cleaned_withoutBlanks
  rw [between.splitList_eq, blankless.splitList_eq, List.map_map, same]

/-! ### Texts that are joined by commas -/

theorem splitList_append_comma (first rest : String) :
    splitList (first ++ "," ++ rest) = splitList first ++ splitList rest := by
  have whole : (first ++ "," ++ rest).toList = first.toList ++ ',' :: rest.toList := by
    rw [String.toList_append, String.toList_append, List.append_assoc]
    rfl
  rw [splitList_eq_sanitized, splitList_eq_sanitized, splitList_eq_sanitized, whole,
    List.splitOn_append_cons_self, List.map_append, List.filter_append]

theorem splitList_intercalate (items : List String) :
    splitList (String.intercalate "," items) = items.flatMap splitList := by
  induction items with
  | nil => rfl
  | cons first rest ih =>
      cases rest with
      | nil => rw [String.intercalate_singleton, List.flatMap_singleton]
      | cons second others =>
          rw [String.intercalate_cons_cons, splitList_append_comma, ih]
          rfl

end Name

/-! ### Sets of names in parameters -/

def Reading.ofNames (key : String) (names : List String) : Reading (List String) :=
  if names = [] then { outcome := none, errors := [{ key, fault := .emptyPartSet }] }
  else { outcome := some names, errors := [] }

namespace Slot

theorem reading_partSet {params : Members} {key : String} {value : Json} {names : List String}
    (found : Entries.find? key params = some value) (present : value ≠ .null)
    (listed : partSet value = if names.isEmpty then .error .emptyPartSet else .ok names) :
    Reading.slot partSet params key = Reading.ofNames key names := by
  unfold Reading.slot Reading.ofNames
  rw [read_of_find? found present, listed]
  cases names with
  | nil => rfl
  | cons first rest => rfl

theorem reading_partSet_text {params : Members} {key content : String}
    (found : Entries.find? key params = some (.text content)) :
    Reading.slot partSet params key = Reading.ofNames key (Name.splitList content) :=
  reading_partSet found Json.noConfusion rfl

theorem reading_partSet_texts {params : Members} {key : String} {items : List String}
    (found : Entries.find? key params = some (.array (items.map .text))) :
    Reading.slot partSet params key = Reading.ofNames key (items.flatMap Name.splitList) := by
  apply reading_partSet found Json.noConfusion
  unfold partSet
  dsimp only
  rw [listedNames_map_text]
  rfl

/-- The names in a text are what is left of the pieces between its commas, with or
without the blanks in it. An array of texts is read as these texts with commas
between them, or fails as that text does, and clean names with commas between
them are read as they are. -/
theorem written_sets_agree :
    (∀ text : String, (∃ pieces, Name.ArePieces text pieces) ∧
      Name.splitList (Name.withoutBlanks text) = Name.splitList text ∧
      ∀ pieces, Name.ArePieces text pieces →
        Name.splitList text = (pieces.map Name.cleaned).filter (· ≠ "")) ∧
    (∀ (items : List String) (params others : Members) (key : String),
      Entries.find? key params = some (.array (items.map .text)) →
      Entries.find? key others = some (.text (String.intercalate "," items)) →
      Reading.slot partSet params key = Reading.ofNames key (items.flatMap Name.splitList) ∧
        Reading.slot partSet others key = Reading.ofNames key (items.flatMap Name.splitList)) ∧
    (∀ (reader : Reader) (key : String),
      (reader.partSet key).Gives (Reading.slot partSet reader.params key)) ∧
    ∀ names : List String, (∀ name ∈ names, Name.IsClean name) →
      Name.splitList (String.intercalate "," names) = names := by
  refine ⟨?_, ?_, fun reader key => reader.gives_partSet key, ?_⟩
  · intro text
    exact ⟨Name.exists_arePieces text, Name.splitList_withoutBlanks text,
      fun pieces between => between.splitList_eq⟩
  · intro items params others key array joined
    have readJoined := reading_partSet_text joined
    rw [Name.splitList_intercalate] at readJoined
    exact ⟨reading_partSet_texts array, readJoined⟩
  · intro names clean
    rw [Name.splitList_intercalate, Name.flatMap_splitList_of_isClean clean]

end Slot
end Scrutineer
