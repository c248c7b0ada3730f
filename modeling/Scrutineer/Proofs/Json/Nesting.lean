import Scrutineer.Proofs.Json.Encode

/-! The nesting of a value counts the arrays and objects around its innermost part. A
written value is strict exactly when its nesting stays within what the arrays and
objects already open leave of the limit; then it is kept as it is, provided its
objects list their members in increasing order of the keys. -/

namespace Scrutineer

namespace Json

mutual

/-- How many arrays and objects are open around the innermost part. -/
def nesting : Json → Nat
  | .null => 0
  | .truth _ => 0
  | .number _ => 0
  | .text _ => 0
  | .array items => itemsNesting items + 1
  | .object members => membersNesting members + 1

def itemsNesting : List Json → Nat
  | [] => 0
  | item :: rest => max item.nesting (itemsNesting rest)

def membersNesting : Members → Nat
  | [] => 0
  | (_, value) :: rest => max value.nesting (membersNesting rest)

end

theorem itemsNesting_le_iff (items : List Json) (bound : Nat) :
    itemsNesting items ≤ bound ↔ ∀ item ∈ items, item.nesting ≤ bound := by
  induction items with
  | nil => simp [itemsNesting]
  | cons item rest ih => rw [itemsNesting, Nat.max_le, ih, List.forall_mem_cons]

theorem membersNesting_le_iff (members : Members) (bound : Nat) :
    membersNesting members ≤ bound ↔ ∀ member ∈ members, member.2.nesting ≤ bound := by
  induction members with
  | nil => simp [membersNesting]
  | cons member rest ih => rw [membersNesting, Nat.max_le, ih, List.forall_mem_cons]

end Json

namespace Entries

variable {Value : Type}

theorem ofList_of_increasing {entries : List (String × Value)} (increasing : Increasing entries) :
    ofList entries = entries := by
  have listed : Increasing ([] ++ entries) := increasing
  exact foldl_insert listed

theorem increasing_ofList (entries : List (String × Value)) : Increasing (ofList entries) := by
  suffices kept : ∀ front : List (String × Value), Increasing front →
      Increasing (entries.foldl (fun sofar entry => insert entry.1 entry.2 sofar) front) from
    kept [] List.Pairwise.nil
  induction entries with
  | nil => exact fun _front increasing => increasing
  | cons entry rest ih =>
      exact fun front increasing => ih _ (increasing_insert entry.1 entry.2 front increasing)

theorem mem_ofList {entries : List (String × Value)} {entry : String × Value}
    (member : entry ∈ ofList entries) : entry ∈ entries := by
  suffices kept : ∀ front : List (String × Value),
      entry ∈ entries.foldl (fun sofar entry => insert entry.1 entry.2 sofar) front →
        entry ∈ front ∨ entry ∈ entries by
    rcases kept [] member with impossible | listed
    · cases impossible
    · exact listed
  clear member
  induction entries with
  | nil => exact fun _front member => .inl member
  | cons head rest ih =>
      intro front member
      rcases ih _ member with early | later
      · rcases mem_insert early with here | before
        · exact .inr (List.mem_cons.mpr (.inl here))
        · exact .inl before
      · exact .inr (List.mem_cons_of_mem head later)

end Entries

namespace Document

private theorem succ_le_room_iff (inner level : Nat) :
    inner + 1 ≤ depthLimit - level ↔ level < depthLimit ∧ inner ≤ depthLimit - (level + 1) := by
  omega

/-! ### Strict documents -/

theorem areStrict_eq_true_iff (level : Nat) (items : List Document) :
    areStrict level items = true ↔ ∀ item ∈ items, item.isStrict level = true := by
  induction items with
  | nil => simp [areStrict]
  | cons item rest ih => rw [areStrict, Bool.and_eq_true, ih, List.forall_mem_cons]

theorem membersAreStrict_eq_true_iff (level : Nat) (members : List (Option String × Document)) :
    membersAreStrict level members = true ↔
      ∀ member ∈ members, member.1.isSome = true ∧ member.2.isStrict level = true := by
  induction members with
  | nil => simp [membersAreStrict]
  | cons member rest ih =>
      rw [membersAreStrict, Bool.and_eq_true, Bool.and_eq_true, ih, List.forall_mem_cons]

private theorem memberValues?_cons (level : Nat) (key : Option String) (value : Document)
    (rest : List (Option String × Document)) :
    memberValues? level ((key, value) :: rest) =
      match key, value? level value, memberValues? level rest with
      | some known, some held, some later => some ((known, held) :: later)
      | _, _, _ => none :=
  rfl

mutual

theorem isSome_value? (level : Nat) :
    ∀ document : Document, (value? level document).isSome = document.isStrict level
  | .null => rfl
  | .truth _ => rfl
  | .number _ => Option.isSome_map
  | .text _ => Option.isSome_map
  | .array items => by
      rw [value?, isStrict]
      by_cases room : level < depthLimit
      · rw [if_pos room, decide_eq_true room, Bool.true_and, Option.isSome_map]
        exact isSome_values? (level + 1) items
      · rw [if_neg room, decide_eq_false room, Bool.false_and]
        rfl
  | .object members => by
      rw [value?, isStrict]
      by_cases room : level < depthLimit
      · rw [if_pos room, decide_eq_true room, Bool.true_and, Option.isSome_map]
        exact isSome_memberValues? (level + 1) members
      · rw [if_neg room, decide_eq_false room, Bool.false_and]
        rfl

theorem isSome_values? (level : Nat) :
    ∀ items : List Document, (values? level items).isSome = areStrict level items
  | [] => rfl
  | item :: rest => by
      rw [values?, areStrict, ← isSome_value? level item, ← isSome_values? level rest]
      cases value? level item with
      | none => rfl
      | some known => cases values? level rest <;> rfl

theorem isSome_memberValues? (level : Nat) :
    ∀ members : List (Option String × Document),
      (memberValues? level members).isSome = membersAreStrict level members
  | [] => rfl
  | (key, value) :: rest => by
      rw [memberValues?_cons, membersAreStrict, ← isSome_value? level value,
        ← isSome_memberValues? level rest]
      cases key with
      | none => rfl
      | some known =>
          cases value? level value with
          | none => rfl
          | some held => cases memberValues? level rest <;> rfl

end

/-- A written value is strict when there is room for all that it opens. -/
theorem isStrict_ofJson_iff (value : Json) (level : Nat) :
    (ofJson value).isStrict level = true ↔ value.nesting ≤ depthLimit - level := by
  induction value using Json.induction generalizing level with
  | null | truth | number | text => simp [ofJson, isStrict, Json.nesting]
  | array items each =>
      have inside : areStrict (level + 1) (ofItems items) = true ↔
          Json.itemsNesting items ≤ depthLimit - (level + 1) := by
        rw [areStrict_eq_true_iff, Json.itemsNesting_le_iff, ofItems_eq_map, List.forall_mem_map]
        exact forall₂_congr fun item member => each item member (level + 1)
      rw [ofJson, isStrict, Json.nesting, Bool.and_eq_true, decide_eq_true_iff, inside,
        succ_le_room_iff]
  | object members each =>
      have inside : membersAreStrict (level + 1) (ofMembers members) = true ↔
          Json.membersNesting members ≤ depthLimit - (level + 1) := by
        rw [membersAreStrict_eq_true_iff, Json.membersNesting_le_iff, ofMembers_eq_map,
          List.forall_mem_map]
        refine forall₂_congr fun member within => ?_
        exact (and_iff_right rfl).trans (each member within (level + 1))
      rw [ofJson, isStrict, Json.nesting, Bool.and_eq_true, decide_eq_true_iff, inside,
        succ_le_room_iff]

/-! ### Values of written documents -/

theorem values?_ofItems {level : Nat} {items : List Json}
    (each : ∀ item ∈ items, value? level (ofJson item) = some item) :
    values? level (ofItems items) = some items := by
  induction items with
  | nil => rfl
  | cons item rest ih =>
      have others := ih fun other member => each other (List.mem_cons_of_mem item member)
      rw [ofItems, values?, each item List.mem_cons_self, others]

theorem memberValues?_ofMembers {level : Nat} {members : Members}
    (each : ∀ member ∈ members, value? level (ofJson member.2) = some member.2) :
    memberValues? level (ofMembers members) = some members := by
  induction members with
  | nil => rfl
  | cons member rest ih =>
      obtain ⟨key, value⟩ := member
      have first : value? level (ofJson value) = some value := each (key, value) List.mem_cons_self
      have others := ih fun other within => each other (List.mem_cons_of_mem (key, value) within)
      rw [ofMembers, memberValues?_cons, first, others]

theorem value?_ofJson {value : Json} (canonical : value.Canonical) {level : Nat}
    (fits : value.nesting ≤ depthLimit - level) : value? level (ofJson value) = some value := by
  induction canonical generalizing level with
  | null | truth | number | text => rfl
  | array items _each ih =>
      rw [Json.nesting, succ_le_room_iff] at fits
      obtain ⟨room, inside⟩ := fits
      have small := (Json.itemsNesting_le_iff items _).mp inside
      have read := values?_ofItems fun item member => ih item member (small item member)
      rw [ofJson, value?, if_pos room, read]
      rfl
  | object members increasing _each ih =>
      rw [Json.nesting, succ_le_room_iff] at fits
      obtain ⟨room, inside⟩ := fits
      have small := (Json.membersNesting_le_iff members _).mp inside
      have read := memberValues?_ofMembers fun member within => ih member within (small member within)
      rw [ofJson, value?, if_pos room, read]
      exact congrArg (some ∘ Json.object) (Entries.ofList_of_increasing increasing)

/-! ### Kept values -/

mutual

theorem canonical_of_value? (level : Nat) :
    ∀ (document : Document) {value : Json}, value? level document = some value → value.Canonical
  | .null, _, read => by
      cases read
      exact .null
  | .truth flag, _, read => by
      cases read
      exact .truth flag
  | .number _, _, read => by
      obtain ⟨number, _known, rfl⟩ := Option.map_eq_some_iff.mp read
      exact .number number
  | .text _, _, read => by
      obtain ⟨content, _known, rfl⟩ := Option.map_eq_some_iff.mp read
      exact .text content
  | .array items, _, read => by
      rw [value?] at read
      split at read
      · obtain ⟨known, inside, rfl⟩ := Option.map_eq_some_iff.mp read
        exact .array known (canonical_of_values? (level + 1) items inside)
      · cases read
  | .object members, _, read => by
      rw [value?] at read
      split at read
      · obtain ⟨known, inside, rfl⟩ := Option.map_eq_some_iff.mp read
        have each := canonical_of_memberValues? (level + 1) members inside
        exact .object _ (Entries.increasing_ofList known)
          fun member within => each member (Entries.mem_ofList within)
      · cases read

theorem canonical_of_values? (level : Nat) :
    ∀ (items : List Document) {known : List Json}, values? level items = some known →
      ∀ value ∈ known, value.Canonical
  | [], _, read => by
      cases read
      intro value impossible
      cases impossible
  | item :: rest, _, read => by
      rw [values?] at read
      split at read
      · rename_i first later readFirst readLater
        cases read
        exact List.forall_mem_cons.mpr ⟨canonical_of_value? level item readFirst,
          canonical_of_values? level rest readLater⟩
      · cases read

theorem canonical_of_memberValues? (level : Nat) :
    ∀ (members : List (Option String × Document)) {known : Members},
      memberValues? level members = some known → ∀ member ∈ known, member.2.Canonical
  | [], _, read => by
      cases read
      intro member impossible
      cases impossible
  | (key, value) :: rest, _, read => by
      rw [memberValues?_cons] at read
      split at read
      · rename_i name held later _keyed readHeld readLater
        cases read
        exact List.forall_mem_cons.mpr ⟨canonical_of_value? level value readHeld,
          canonical_of_memberValues? level rest readLater⟩
      · cases read

end

end Document
end Scrutineer
