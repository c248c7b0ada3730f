/-! Cutting characters at a separator and looking for a fragment. All functions work
on the characters of a text, in order, and lose none of them: what is cut off is the
separator or the lead that was asked for. -/

namespace Scrutineer
namespace Text

def splitAtLast? (separator : Char) : List Char → Option (List Char × List Char)
  | [] => none
  | first :: rest =>
      match splitAtLast? separator rest with
      | some (before, after) => some (first :: before, after)
      | none => if first = separator then some ([], rest) else none

theorem splitAtLast?_eq_none_iff (separator : Char) (characters : List Char) :
    splitAtLast? separator characters = none ↔ separator ∉ characters := by
  induction characters with
  | nil => simp [splitAtLast?]
  | cons first rest ih =>
      rw [splitAtLast?]
      cases found : splitAtLast? separator rest with
      | some parts =>
          have member : separator ∈ rest := by
            apply Decidable.byContradiction
            intro absent
            rw [ih.mpr absent] at found
            cases found
          simp [member]
      | none =>
          have absent := ih.mp found
          by_cases same : first = separator
          · simp [same]
          · simp [same, absent, Ne.symm same]

theorem splitAtLast?_eq_some_iff (separator : Char) (characters before after : List Char) :
    splitAtLast? separator characters = some (before, after) ↔
      characters = before ++ separator :: after ∧ separator ∉ after := by
  induction characters generalizing before with
  | nil => simp [splitAtLast?]
  | cons first rest ih =>
      rw [splitAtLast?]
      cases found : splitAtLast? separator rest with
      | none =>
          have absent := (splitAtLast?_eq_none_iff separator rest).mp found
          cases before with
          | nil => by_cases same : first = separator <;> simp [same]; intro equal; rwa [← equal]
          | cons head tail =>
              have different : rest ≠ tail ++ separator :: after := by
                intro equal
                exact absent (by simp [equal])
              by_cases same : first = separator <;> simp [same, different]
      | some parts =>
          obtain ⟨start, finish⟩ := parts
          have member : separator ∈ rest := by
            apply Decidable.byContradiction
            intro absent
            rw [(splitAtLast?_eq_none_iff separator rest).mpr absent] at found
            cases found
          cases before with
          | nil =>
              simp only [List.nil_append, Option.some.injEq, Prod.mk.injEq, List.cons.injEq]
              constructor
              · rintro ⟨impossible, _⟩
                cases impossible
              · rintro ⟨⟨_, equal⟩, absent⟩
                exact absurd (equal ▸ member) absent
          | cons head tail =>
              have inner := ih tail
              rw [found] at inner
              simp only [Option.some.injEq, Prod.mk.injEq, List.cons.injEq, List.cons_append,
                and_assoc] at inner ⊢
              rw [inner]

def splitAtFirst? (separator : Char) : List Char → Option (List Char × List Char)
  | [] => none
  | first :: rest =>
      if first = separator then some ([], rest)
      else
        match splitAtFirst? separator rest with
        | some (before, after) => some (first :: before, after)
        | none => none

def dropLead? : List Char → List Char → Option (List Char)
  | [], characters => some characters
  | _ :: _, [] => none
  | wanted :: lead, first :: rest =>
      if first = wanted then dropLead? lead rest else none

theorem dropLead?_eq_some_iff (lead characters after : List Char) :
    dropLead? lead characters = some after ↔ characters = lead ++ after := by
  induction lead generalizing characters with
  | nil => simp [dropLead?]
  | cons wanted lead ih =>
      cases characters with
      | nil => simp [dropLead?]
      | cons first rest => by_cases same : first = wanted <;> simp [dropLead?, same, ih]

/-- Whether the fragment occurs somewhere in the characters, one after the
other. The empty fragment occurs everywhere. -/
def containsFragment (fragment : List Char) : List Char → Bool
  | [] => fragment.isEmpty
  | first :: rest =>
      fragment.isPrefixOf (first :: rest) || containsFragment fragment rest

theorem containsFragment_iff (fragment characters : List Char) :
    containsFragment fragment characters = true ↔
      ∃ before after, characters = before ++ fragment ++ after := by
  induction characters with
  | nil => cases fragment <;> simp [containsFragment]
  | cons first rest ih =>
      rw [containsFragment, Bool.or_eq_true, List.isPrefixOf_iff_prefix, ih]
      constructor
      · rintro (⟨after, whole⟩ | ⟨before, after, whole⟩)
        · exact ⟨[], after, by simp [whole]⟩
        · exact ⟨first :: before, after, by simp [whole]⟩
      · rintro ⟨before, after, whole⟩
        cases before with
        | nil => exact Or.inl ⟨after, by simpa using whole.symm⟩
        | cons head tail =>
            simp only [List.cons_append, List.cons.injEq] at whole
            exact Or.inr ⟨tail, after, whole.2⟩

end Text
end Scrutineer
