import Scrutineer.Json.Decode

/-! A member or an item of a record changes the draft by what its field reads only. So
what is true at the start and kept by the fields read is true at the end, and a change
to the draft that the fields read ignore may be made before or after. -/

namespace Scrutineer
namespace Decoder

variable {Value Draft : Type}

theorem bind_eq_ok_iff {Fault Other : Type} (first : Except Fault Value)
    (next : Value → Except Fault Other) (made : Other) :
    (first >>= next) = .ok made ↔ ∃ value, first = .ok value ∧ next value = .ok made := by
  cases first with
  | error fault =>
      constructor
      · intro impossible
        cases impossible
      · intro given
        rcases given with ⟨value, impossible, _later⟩
        cases impossible
  | ok value =>
      constructor
      · intro later
        exact ⟨value, rfl, later⟩
      · intro given
        rcases given with ⟨same, equal, later⟩
        cases equal
        exact later

theorem needed_eq_ok_iff (name : String) (held : Option Value) (value : Value) :
    needed name held = .ok value ↔ held = some value := by
  cases held with
  | none =>
      constructor
      · intro impossible
        cases impossible
      · intro impossible
        cases impossible
  | some known =>
      constructor
      · intro same
        cases same
        rfl
      · intro same
        cases same
        rfl

theorem map_eq_ok {Fault Other : Type} {first : Except Fault Value} {value : Value}
    {made : Value → Other} (known : first = .ok value) :
    (do let value ← first; return made value) = .ok (made value) := by
  rw [known]
  rfl

theorem foldlM_invariant {State Item Fault : Type} {step : State → Item → Except Fault State}
    {invariant : State → Prop} {items : List Item}
    (keeps : ∀ item ∈ items, ∀ state next, step state item = .ok next →
      invariant state → invariant next)
    {start last : State} (accepted : items.foldlM step start = .ok last)
    (before : invariant start) : invariant last := by
  induction items generalizing start with
  | nil =>
      cases accepted
      exact before
  | cons item rest ih =>
      rw [List.foldlM_cons] at accepted
      obtain ⟨next, first, later⟩ := (bind_eq_ok_iff _ _ _).mp accepted
      exact ih (fun other member => keeps other (List.mem_cons_of_mem item member)) later
        (keeps item List.mem_cons_self start next first before)

theorem forall_of_list {decoder : Decoder Value} {property : Value → Prop} {level : Nat}
    (each : ∀ document value, decoder (level + 1) document = .ok value → property value)
    {document : Document} {values : List Value} (decoded : list decoder level document = .ok values) :
    ∀ value ∈ values, property value := by
  unfold list at decoded
  cases document with
  | array items =>
      change items.mapM (decoder (level + 1)) = .ok values at decoded
      induction items generalizing values with
      | nil =>
          cases decoded
          intro value impossible
          cases impossible
      | cons item rest ih =>
          rw [List.mapM_cons] at decoded
          obtain ⟨first, reads, decoded⟩ := (bind_eq_ok_iff _ _ _).mp decoded
          obtain ⟨others, later, same⟩ := (bind_eq_ok_iff _ _ _).mp decoded
          cases same
          intro value member
          rcases List.mem_cons.mp member with here | there
          · rw [here]
            exact each item first reads
          · exact ih later value there
  | _ => cases decoded

/-- A property of drafts stays true under whatever the field reads. -/
def Field.Keeps (field : Field Draft) (invariant : Draft → Prop) : Prop :=
  ∀ level document set draft, field.read level document = .ok set →
    invariant draft → invariant (set draft)

/-- Reading the field does not depend on a change that was made to the draft. -/
structure Field.Ignores (field : Field Draft) (change : Draft → Draft) : Prop where
  isSet : ∀ draft, field.isSet (change draft) = field.isSet draft
  read : ∀ level document set draft, field.read level document = .ok set →
    set (change draft) = change (set draft)

namespace Shape

variable {shape : Shape Draft Value} {invariant : Draft → Prop} {change : Draft → Draft}
variable {level : Nat}

theorem readMember_some (draft : Draft) (name : String) (document : Document) :
    shape.readMember level draft (some name, document) =
      match shape.fields.find? (·.name == name) with
      | none => .ok draft
      | some field =>
          if field.isSet draft then .error (.duplicateField name)
          else field.read level document >>= fun set => .ok (set draft) :=
  rfl

theorem keeps_readMember {draft read : Draft} {member : Option String × Document}
    (keeps : ∀ field ∈ shape.fields, member.1 = some field.name → field.Keeps invariant)
    (accepted : shape.readMember level draft member = .ok read) (before : invariant draft) :
    invariant read := by
  obtain ⟨key, document⟩ := member
  cases key with
  | none => cases accepted
  | some name =>
      rw [readMember_some] at accepted
      split at accepted
      · cases accepted
        exact before
      · rename_i field found
        split at accepted
        · cases accepted
        · obtain ⟨set, reads, same⟩ := (bind_eq_ok_iff _ _ _).mp accepted
          cases same
          have sameName : name = field.name := by
            have matched := List.find?_some found
            exact (eq_of_beq matched).symm
          have kept := keeps field (List.mem_of_find?_eq_some found) (congrArg some sameName)
          exact kept level document set draft reads before

theorem keeps_foldlM_readMember {members : List (Option String × Document)} {draft read : Draft}
    (keeps : ∀ member ∈ members, ∀ field ∈ shape.fields,
      member.1 = some field.name → field.Keeps invariant)
    (accepted : members.foldlM (shape.readMember level) draft = .ok read)
    (before : invariant draft) : invariant read :=
  foldlM_invariant (fun member within _draft _next taken =>
    keeps_readMember (keeps member within) taken) accepted before

theorem keeps_readItems {fields : List (Field Draft)} {items : List Document} {position : Nat}
    {draft read : Draft} (keeps : ∀ field ∈ fields.take items.length, field.Keeps invariant)
    (accepted : shape.readItems level position draft fields items = .ok read)
    (before : invariant draft) : invariant read := by
  induction fields generalizing items position draft with
  | nil =>
      cases items with
      | nil =>
          cases accepted
          exact before
      | cons item items => cases accepted
  | cons field fields ih =>
      cases items with
      | nil =>
          rw [readItems] at accepted
          split at accepted
          · cases accepted
          · refine ih ?_ accepted before
            intro other impossible
            cases impossible
      | cons item items =>
          rw [readItems] at accepted
          obtain ⟨set, reads, later⟩ := (bind_eq_ok_iff _ _ _).mp accepted
          rw [List.length_cons, List.take_succ_cons] at keeps
          have others : ∀ other ∈ fields.take items.length, other.Keeps invariant :=
            fun other within => keeps other (List.mem_cons_of_mem field within)
          exact ih others later (keeps field List.mem_cons_self level item set draft reads before)

/-- What holds at the start and is kept by all fields holds of the draft that a
record is made of. -/
theorem exists_draft_of_decoder {document : Document} {value : Value}
    (keeps : ∀ field ∈ shape.fields, field.Keeps invariant) (starts : invariant shape.start)
    (decoded : shape.decoder level document = .ok value) :
    ∃ draft, invariant draft ∧ shape.finish draft = .ok value := by
  unfold decoder at decoded
  cases document with
  | object members =>
      obtain ⟨draft, reads, finished⟩ := (bind_eq_ok_iff _ _ _).mp decoded
      have kept := keeps_foldlM_readMember (fun _member _within field known _key => keeps field known)
        reads starts
      exact ⟨draft, kept, finished⟩
  | array items =>
      obtain ⟨draft, reads, finished⟩ := (bind_eq_ok_iff _ _ _).mp decoded
      have kept := keeps_readItems (fun field early => keeps field (List.mem_of_mem_take early))
        reads starts
      exact ⟨draft, kept, finished⟩
  | _ => cases decoded

/-! ### Changes that fields ignore -/

theorem readMember_change {draft : Draft} {member : Option String × Document}
    (ignores : ∀ field ∈ shape.fields, member.1 = some field.name → field.Ignores change) :
    shape.readMember level (change draft) member =
      (shape.readMember level draft member).map change := by
  obtain ⟨key, document⟩ := member
  cases key with
  | none => rfl
  | some name =>
      rw [readMember_some, readMember_some]
      cases found : shape.fields.find? (·.name == name) with
      | none => rfl
      | some field =>
          have sameName : name = field.name := by
            have matched := List.find?_some found
            exact (eq_of_beq matched).symm
          have ignored := ignores field (List.mem_of_find?_eq_some found) (congrArg some sameName)
          dsimp only
          rw [ignored.isSet]
          cases field.isSet draft with
          | true => rfl
          | false =>
              cases reads : field.read level document with
              | error fault => rfl
              | ok set => exact congrArg Except.ok (ignored.read level document set draft reads)

theorem foldlM_readMember_change {draft : Draft} {members : List (Option String × Document)}
    (ignores : ∀ member ∈ members, ∀ field ∈ shape.fields,
      member.1 = some field.name → field.Ignores change) :
    members.foldlM (shape.readMember level) (change draft) =
      (members.foldlM (shape.readMember level) draft).map change := by
  induction members generalizing draft with
  | nil => rfl
  | cons member rest ih =>
      have others := fun other within => ignores other (List.mem_cons_of_mem member within)
      rw [List.foldlM_cons, List.foldlM_cons, readMember_change (ignores member List.mem_cons_self)]
      cases shape.readMember level draft member with
      | error fault => rfl
      | ok next => exact ih others

theorem foldlM_readMember_cons {field : Field Draft} {name : String} {document : Document}
    {set : Draft → Draft} {draft : Draft} {members : List (Option String × Document)}
    (found : shape.fields.find? (·.name == name) = some field) (unset : field.isSet draft = false)
    (reads : field.read level document = .ok set) :
    ((some name, document) :: members).foldlM (shape.readMember level) draft =
      members.foldlM (shape.readMember level) (set draft) := by
  have read : shape.readMember level draft (some name, document) = .ok (set draft) := by
    rw [readMember_some, found]
    dsimp only
    rw [unset, reads]
    rfl
  rw [List.foldlM_cons, read]
  rfl

theorem foldlM_readMember_insert {field : Field Draft} {name : String} {payload : Document}
    {before after : List (Option String × Document)} {start : Draft}
    (found : shape.fields.find? (·.name == name) = some field)
    (unset : ∀ draft, before.foldlM (shape.readMember level) start = .ok draft →
      field.isSet draft = false)
    (reads : field.read level payload = .ok change)
    (ignores : ∀ member ∈ after, ∀ other ∈ shape.fields,
      member.1 = some other.name → other.Ignores change) :
    (before ++ (some name, payload) :: after).foldlM (shape.readMember level) start =
      ((before ++ after).foldlM (shape.readMember level) start).map change := by
  rw [List.foldlM_append, List.foldlM_append]
  cases read : before.foldlM (shape.readMember level) start with
  | error fault => rfl
  | ok draft =>
      have put : ((some name, payload) :: after).foldlM (shape.readMember level) draft =
          after.foldlM (shape.readMember level) (change draft) :=
        foldlM_readMember_cons found (unset draft read) reads
      rw [foldlM_readMember_change ignores] at put
      exact put

theorem readItems_append {front back : List (Field Draft)} {items more : List Document}
    (same : items.length = front.length) (position : Nat) (draft : Draft) :
    shape.readItems level position draft (front ++ back) (items ++ more) =
      shape.readItems level position draft front items >>= fun read =>
        shape.readItems level (position + items.length) read back more := by
  induction front generalizing items position draft with
  | nil =>
      rw [List.length_eq_zero_iff.mp same]
      rfl
  | cons field front ih =>
      cases items with
      | nil => cases same
      | cons item items =>
          rw [List.cons_append, List.cons_append, readItems, readItems, List.length_cons,
            Nat.add_comm items.length, ← Nat.add_assoc]
          cases field.read level item with
          | error fault => rfl
          | ok set => exact ih (Nat.succ.inj same) (position + 1) (set draft)

/-- An item for the last field, which may be left out, does its change at the end. -/
theorem readItems_insert {front : List (Field Draft)} {last : Field Draft} {items : List Document}
    {payload : Document} (optional : last.required = false) (same : items.length = front.length)
    (reads : last.read level payload = .ok change) (position : Nat) (draft : Draft) :
    shape.readItems level position draft (front ++ [last]) (items ++ [payload]) =
      (shape.readItems level position draft (front ++ [last]) items).map change := by
  have without : shape.readItems level position draft (front ++ [last]) (items ++ []) = _ :=
    readItems_append same position draft
  rw [List.append_nil] at without
  rw [readItems_append same, without]
  cases shape.readItems level position draft front items with
  | error fault => rfl
  | ok read =>
      have left : shape.readItems level (position + items.length) read [last] [] = .ok read := by
        rw [readItems, optional]
        rfl
      have put : shape.readItems level (position + items.length) read [last] [payload] =
          .ok (change read) := by
        rw [readItems, reads]
        rfl
      change shape.readItems level (position + items.length) read [last] [payload] =
        (shape.readItems level (position + items.length) read [last] []).map change
      rw [left, put]
      rfl

end Shape

/-! ### Whole texts -/

theorem mapError_eq_ok_iff {Fault Other : Type} (change : Fault → Other)
    (result : Except Fault Value) (value : Value) :
    result.mapError change = .ok value ↔ result = .ok value := by
  cases result with
  | error fault =>
      constructor
      · intro impossible
        cases impossible
      · intro impossible
        cases impossible
  | ok held =>
      constructor
      · intro same
        cases same
        rfl
      · intro same
        cases same
        rfl

theorem ofText_eq_ok_iff (decoder : Decoder Value) (text : String) (value : Value) :
    ofText decoder text = .ok value ↔
      ∃ document, Document.ofText? text = some document ∧ decoder 0 document = .ok value := by
  unfold ofText
  cases Document.ofText? text with
  | none => simp
  | some document =>
      cases decoded : decoder 0 document with
      | error fault => simp [decoded]
      | ok known => simp [decoded]

end Decoder
end Scrutineer
