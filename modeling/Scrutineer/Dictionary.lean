/-! A dictionary lists its entries in increasing order of their keys, each key once,
so two dictionaries with the same look-ups are equal and every listing comes out in
the order of the keys. Lists of entries that follow the same discipline without
carrying the proof are used inside of recursive types. -/

namespace Scrutineer

namespace Entries

variable {Value : Type}

def find? (key : String) (entries : List (String × Value)) : Option Value :=
  entries.lookup key

/-- Puts a value under a key, in place of an earlier one, before the first
greater key. -/
def insert (key : String) (value : Value) : List (String × Value) → List (String × Value)
  | [] => [(key, value)]
  | (other, held) :: rest =>
      if key < other then (key, value) :: (other, held) :: rest
      else if key = other then (key, value) :: rest
      else (other, held) :: insert key value rest

def ofList (entries : List (String × Value)) : List (String × Value) :=
  entries.foldl (fun sofar entry => insert entry.1 entry.2 sofar) []

def Increasing (entries : List (String × Value)) : Prop :=
  entries.Pairwise (fun earlier later => earlier.1 < later.1)

private theorem bounded_insert (bound key : String) (value : Value)
    (entries : List (String × Value)) (below : bound < key)
    (all : ∀ entry ∈ entries, bound < entry.1) :
    ∀ entry ∈ insert key value entries, bound < entry.1 := by
  induction entries with
  | nil =>
      intro entry member
      rw [insert, List.mem_singleton] at member
      rw [member]
      exact below
  | cons head rest ih =>
      obtain ⟨other, held⟩ := head
      intro entry member
      rw [insert] at member
      split at member
      · rcases List.mem_cons.mp member with same | member
        · rw [same]; exact below
        · exact all entry member
      · split at member
        · rcases List.mem_cons.mp member with same | member
          · rw [same]; exact below
          · exact all entry (List.mem_cons_of_mem _ member)
        · rcases List.mem_cons.mp member with same | member
          · exact all entry (same ▸ List.mem_cons_self)
          · exact ih (fun entry member => all entry (List.mem_cons_of_mem _ member)) entry member

theorem increasing_insert (key : String) (value : Value) (entries : List (String × Value))
    (increasing : Increasing entries) : Increasing (insert key value entries) := by
  induction entries with
  | nil => exact List.pairwise_singleton _ _
  | cons head rest ih =>
      obtain ⟨other, held⟩ := head
      have parts := List.pairwise_cons.mp increasing
      rw [insert]
      split
      · rename_i less
        refine List.pairwise_cons.mpr ⟨fun entry member => ?_, increasing⟩
        rcases List.mem_cons.mp member with same | member
        · rw [same]; exact less
        · exact String.lt_trans less (parts.1 entry member)
      · split
        · rename_i same
          subst same
          exact List.pairwise_cons.mpr ⟨parts.1, parts.2⟩
        · rename_i notLess different
          have greater : other < key := by
            apply Decidable.byContradiction
            intro notGreater
            exact different
              (String.le_antisymm (String.not_lt.mp notGreater) (String.not_lt.mp notLess))
          exact List.pairwise_cons.mpr
            ⟨bounded_insert other key value rest greater parts.1, ih parts.2⟩

theorem find?_nil (key : String) : find? key ([] : List (String × Value)) = none := rfl

theorem find?_cons (key other : String) (held : Value) (rest : List (String × Value)) :
    find? key ((other, held) :: rest) = if key = other then some held else find? key rest := by
  unfold find?
  rw [List.lookup_cons]
  by_cases same : key = other
  · simp [same]
  · rw [if_neg same, beq_eq_false_iff_ne.mpr same]

theorem find?_insert (key other : String) (value : Value) (entries : List (String × Value)) :
    find? other (insert key value entries) =
      if other = key then some value else find? other entries := by
  induction entries with
  | nil => rw [insert, find?_cons]
  | cons head rest ih =>
      obtain ⟨first, held⟩ := head
      rw [insert]
      split
      · rw [find?_cons]
      · split
        · rename_i equal
          subst equal
          rw [find?_cons, find?_cons]
          by_cases same : other = key <;> simp only [same, if_true, if_false]
        · rename_i different
          rw [find?_cons, find?_cons, ih]
          by_cases same : other = key
          · rw [if_pos same, if_pos same, if_neg (same ▸ different)]
          · rw [if_neg same, if_neg same]

theorem find?_of_less (key : String) (entries : List (String × Value))
    (less : ∀ entry ∈ entries, key < entry.1) : find? key entries = none := by
  induction entries with
  | nil => rfl
  | cons head rest ih =>
      obtain ⟨other, held⟩ := head
      have different : key ≠ other := by
        intro same
        have below : key < other := less (other, held) List.mem_cons_self
        rw [← same] at below
        exact String.lt_irrefl key below
      rw [find?_cons, if_neg different]
      exact ih fun entry member => less entry (List.mem_cons_of_mem _ member)

private theorem not_less_of_find? {key first : String} {held : Value}
    {rest : List (String × Value)} (increasing : Increasing ((first, held) :: rest))
    (found : (find? key ((first, held) :: rest)).isSome) : ¬ key < first := by
  intro less
  have nothing := find?_of_less key ((first, held) :: rest) (by
    intro entry member
    rcases List.mem_cons.mp member with here | there
    · rw [here]; exact less
    · exact String.lt_trans less ((List.pairwise_cons.mp increasing).1 entry there))
  rw [nothing] at found
  cases found

/-- Two increasing lists in which the same is found are the same list. -/
theorem eq_of_find? {left right : List (String × Value)} (leftIncreasing : Increasing left)
    (rightIncreasing : Increasing right)
    (same : ∀ key, find? key left = find? key right) : left = right := by
  induction left generalizing right with
  | nil =>
      cases right with
      | nil => rfl
      | cons head rest =>
          have found := same head.1
          rw [find?_nil, find?_cons, if_pos rfl] at found
          cases found
  | cons leftHead leftRest ih =>
      obtain ⟨leftKey, leftValue⟩ := leftHead
      cases right with
      | nil =>
          have found := same leftKey
          rw [find?_nil, find?_cons, if_pos rfl] at found
          cases found
      | cons rightHead rightRest =>
          obtain ⟨rightKey, rightValue⟩ := rightHead
          have leftParts := List.pairwise_cons.mp leftIncreasing
          have rightParts := List.pairwise_cons.mp rightIncreasing
          have leftFound : (find? leftKey ((leftKey, leftValue) :: leftRest)).isSome := by
            rw [find?_cons, if_pos rfl, Option.isSome_some]
          have rightFound : (find? rightKey ((rightKey, rightValue) :: rightRest)).isSome := by
            rw [find?_cons, if_pos rfl, Option.isSome_some]
          have keys : leftKey = rightKey :=
            String.le_antisymm
              (String.not_lt.mp
                (not_less_of_find? leftIncreasing (same rightKey ▸ rightFound)))
              (String.not_lt.mp
                (not_less_of_find? rightIncreasing (same leftKey ▸ leftFound)))
          subst keys
          have values := same leftKey
          rw [find?_cons, find?_cons, if_pos rfl, if_pos rfl, Option.some.injEq] at values
          subst values
          have rests := ih leftParts.2 rightParts.2 (by
            intro key
            by_cases atHead : key = leftKey
            · subst atHead
              rw [find?_of_less key leftRest leftParts.1, find?_of_less key rightRest rightParts.1]
            · have whole := same key
              rwa [find?_cons, find?_cons, if_neg atHead, if_neg atHead] at whole)
          rw [rests]

end Entries

/-- A finite map, as its entries in increasing order of the keys. -/
structure Dictionary (Value : Type) where
  entries : List (String × Value)
  increasing : Entries.Increasing entries

namespace Dictionary

variable {Value : Type}

def empty : Dictionary Value :=
  { entries := [], increasing := List.Pairwise.nil }

instance : Inhabited (Dictionary Value) := ⟨empty⟩

instance [DecidableEq Value] : DecidableEq (Dictionary Value) := fun left right =>
  decidable_of_iff (left.entries = right.entries)
    ⟨fun same => by cases left; cases right; cases same; rfl, fun same => same ▸ rfl⟩

def find? (dictionary : Dictionary Value) (key : String) : Option Value :=
  Entries.find? key dictionary.entries

theorem ext_find? {left right : Dictionary Value}
    (same : ∀ key, left.find? key = right.find? key) : left = right := by
  obtain ⟨leftEntries, leftIncreasing⟩ := left
  obtain ⟨rightEntries, rightIncreasing⟩ := right
  have equal : leftEntries = rightEntries :=
    Entries.eq_of_find? leftIncreasing rightIncreasing same
  subst equal
  rfl

def contains (dictionary : Dictionary Value) (key : String) : Bool :=
  (dictionary.find? key).isSome

def isEmpty (dictionary : Dictionary Value) : Bool :=
  dictionary.entries.isEmpty

def insert (dictionary : Dictionary Value) (key : String) (value : Value) : Dictionary Value :=
  { entries := Entries.insert key value dictionary.entries
    increasing := Entries.increasing_insert key value _ dictionary.increasing }

theorem find?_insert (dictionary : Dictionary Value) (key other : String) (value : Value) :
    (dictionary.insert key value).find? other =
      if other = key then some value else dictionary.find? other :=
  Entries.find?_insert key other value dictionary.entries

def ofList (entries : List (String × Value)) : Dictionary Value :=
  entries.foldl (fun sofar entry => sofar.insert entry.1 entry.2) empty

end Dictionary
end Scrutineer
