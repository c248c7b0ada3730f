import Scrutineer.Proofs.Rule.Spelling

/-! A name is read under the first of its keys that has a value other than null. What
is wrong with it is reported under that key, and under the first key of all when the
name is missing. So the report is under the first key unless it is some other key that
has the faulty name. -/

namespace Scrutineer

variable {params : Members}

/-! ### The key of a name -/

/-- The first of several keys that has a value other than null, with this value. -/
inductive Entries.FirstValued (params : Members) : List String → String → Json → Prop where
  | here {key : String} {rest : List String} {value : Json}
      (found : find? key params = some value) (present : value ≠ .null) :
      FirstValued params (key :: rest) key value
  | later {first key : String} {rest : List String} {value : Json}
      (without : hasValue params first = false) (valued : FirstValued params rest key value) :
      FirstValued params (first :: rest) key value

namespace Entries

theorem exists_of_hasValue {key : String} (has : hasValue params key = true) :
    ∃ value, find? key params = some value ∧ value ≠ .null := by
  unfold hasValue at has
  split at has
  · cases has
  · cases has
  · rename_i value notNull found
    exact ⟨value, found, notNull⟩

theorem firstValued_or_none (params : Members) (keys : List String) :
    (∃ key value, FirstValued params keys key value) ∨ ∀ key ∈ keys, hasValue params key = false := by
  induction keys with
  | nil => exact .inr (List.forall_mem_nil _)
  | cons first rest ih =>
      cases has : hasValue params first with
      | true =>
          obtain ⟨value, found, present⟩ := exists_of_hasValue has
          exact .inl ⟨first, value, .here found present⟩
      | false =>
          rcases ih with ⟨key, value, valued⟩ | none
          · exact .inl ⟨key, value, .later has valued⟩
          · exact .inr (List.forall_mem_cons.mpr ⟨has, none⟩)

namespace FirstValued

variable {keys : List String} {key : String} {value : Json}

theorem found (valued : FirstValued params keys key value) :
    find? key params = some value ∧ value ≠ .null := by
  induction valued with
  | here found present => exact ⟨found, present⟩
  | later without valued ih => exact ih

theorem hasValue (valued : FirstValued params keys key value) : hasValue params key = true :=
  hasValue_of_find? valued.found.1 valued.found.2

theorem mem (valued : FirstValued params keys key value) : key ∈ keys := by
  induction valued with
  | here found present => exact List.mem_cons_self
  | later without valued ih => exact List.mem_cons_of_mem _ ih

theorem find?_eq (valued : FirstValued params keys key value) :
    keys.find? (Entries.hasValue params) = some key := by
  induction valued with
  | here found present => rw [List.find?_cons, hasValue_of_find? found present]
  | later without valued ih => rw [List.find?_cons, without, ih]

end FirstValued
end Entries

namespace Reading

variable {first : String} {others : List String}

theorem presentKey_of_firstValued {key : String} {value : Json}
    (valued : Entries.FirstValued params (first :: others) key value) :
    presentKey params first others = key := by
  change ((first :: others).find? (Entries.hasValue params)).getD first = key
  rw [valued.find?_eq, Option.getD_some]

theorem presentKey_of_nowhere
    (nowhere : ∀ key ∈ first :: others, Entries.hasValue params key = false) :
    presentKey params first others = first := by
  have nothing : (first :: others).find? (Entries.hasValue params) = none := by
    rw [List.find?_eq_none]
    intro key member
    rw [nowhere key member]
    exact Bool.false_ne_true
  change ((first :: others).find? (Entries.hasValue params)).getD first = first
  rw [nothing, Option.getD_none]

end Reading

/-! ### The name under a key -/

inductive Json.HasText : Json → String → Prop where
  | text (content : String) : HasText (.text content) content
  | number (value : Number) : HasText (.number value) (String.ofList value.text)

namespace Slot

theorem name_of_hasText {value : Json} {text : String} (has : value.HasText text) :
    name value =
      if Name.sanitize text = "" then .error .empty else .ok (Name.sanitize text) := by
  cases has with
  | text content => rfl
  | number value => rfl

theorem name_of_no_text {value : Json} (textless : ∀ text, ¬ value.HasText text) :
    name value = .error (.wrongType "string" value.kindName) := by
  cases value with
  | text content => exact absurd (.text content) (textless content)
  | number number => exact absurd (.number number) (textless _)
  | _ => rfl

theorem read_of_not_hasValue {Value : Type} (slot : Slot Value) {key : String}
    (without : Entries.hasValue params key = false) : slot.read params key = .error .missing := by
  unfold Entries.hasValue at without
  unfold read
  cases found : Entries.find? key params with
  | none => rfl
  | some value =>
      rw [found] at without
      cases value with
      | null => rfl
      | _ => cases without

end Slot

namespace Reading

/-- What is read as a name that may stand under several keys. -/
inductive OfNameUnder (params : Members) (first : String) (others : List String) :
    Reading String → Prop where
  | name {key : String} {value : Json} {text : String}
      (valued : Entries.FirstValued params (first :: others) key value) (has : value.HasText text)
      (left : Name.sanitize text ≠ "") :
      OfNameUnder params first others { outcome := some (Name.sanitize text), errors := [] }
  | empty {key : String} {value : Json} {text : String}
      (valued : Entries.FirstValued params (first :: others) key value) (has : value.HasText text)
      (nothingLeft : Name.sanitize text = "") :
      OfNameUnder params first others { outcome := none, errors := [{ key, fault := .empty }] }
  | noText {key : String} {value : Json}
      (valued : Entries.FirstValued params (first :: others) key value)
      (textless : ∀ text, ¬ value.HasText text) :
      OfNameUnder params first others
        { outcome := none, errors := [{ key, fault := .wrongType "string" value.kindName }] }
  | missing (nowhere : ∀ key ∈ first :: others, Entries.hasValue params key = false) :
      OfNameUnder params first others
        { outcome := none, errors := [{ key := first, fault := .missing }] }

theorem ofNameUnder (params : Members) (first : String) (others : List String) :
    OfNameUnder params first others (nameUnder params first others) := by
  unfold nameUnder slot
  rcases Entries.firstValued_or_none params (first :: others) with ⟨key, value, valued⟩ | nowhere
  · obtain ⟨found, present⟩ := valued.found
    rw [presentKey_of_firstValued valued, Slot.read_of_find? found present]
    by_cases textual : ∃ text, value.HasText text
    · obtain ⟨text, has⟩ := textual
      rw [Slot.name_of_hasText has]
      by_cases nothingLeft : Name.sanitize text = ""
      · rw [if_pos nothingLeft]
        exact .empty valued has nothingLeft
      · rw [if_neg nothingLeft]
        exact .name valued has nothingLeft
    · have textless := not_exists.mp textual
      rw [Slot.name_of_no_text textless]
      exact .noText valued textless
  · have atFirst := nowhere first List.mem_cons_self
    rw [presentKey_of_nowhere nowhere, Slot.read_of_not_hasValue Slot.name atFirst]
    exact .missing nowhere

theorem OfNameUnder.key_eq_first_iff {first : String} {others : List String}
    {reading : Reading String} (read : OfNameUnder params first others reading) :
    ∀ error ∈ reading.errors, error.key = first ↔
      Entries.hasValue params first = true ∨
        ∀ key ∈ others, Entries.hasValue params key = false := by
  have chosen {key : String} {value : Json}
      (valued : Entries.FirstValued params (first :: others) key value) :
      key = first ↔ Entries.hasValue params first = true ∨
        ∀ key ∈ others, Entries.hasValue params key = false := by
    cases valued with
    | here found present => simp [Entries.hasValue_of_find? found present]
    | later without valued =>
        have has := valued.hasValue
        constructor
        · intro same
          rw [← same, has] at without
          cases without
        · intro either
          rcases either with atFirst | nowhere
          · rw [atFirst] at without
            cases without
          · rw [nowhere key valued.mem] at has
            cases has
  cases read with
  | name valued has left => exact List.forall_mem_nil _
  | empty valued has nothingLeft => exact List.forall_mem_singleton.mpr (chosen valued)
  | noText valued textless => exact List.forall_mem_singleton.mpr (chosen valued)
  | missing nowhere =>
      have atOthers := (List.forall_mem_cons.mp nowhere).2
      exact List.forall_mem_singleton.mpr ⟨fun _same => .inr atOthers, fun _either => rfl⟩

/-- A name under several keys is read under the first one with a value. It is
reported under the first key of all only if this key has a value or none has. -/
theorem nameUnder_reported_where_read (reader : Reader) (first : String) (others : List String) :
    (reader.nameUnder first others).Gives (nameUnder reader.params first others) ∧
      OfNameUnder reader.params first others (nameUnder reader.params first others) ∧
      ∀ error ∈ (nameUnder reader.params first others).errors, error.key = first ↔
        Entries.hasValue reader.params first = true ∨
          ∀ key ∈ others, Entries.hasValue reader.params key = false :=
  have read := ofNameUnder reader.params first others
  ⟨reader.gives_nameUnder first others, read, read.key_eq_first_iff⟩

-- The faulty name stands under the second key, and that is where it is reported.
example :
    (nameUnder [("name", .text "***")] "mod" ["name"]).errors =
      [{ key := "name", fault := .empty }] := by
  decide

end Reading
end Scrutineer
