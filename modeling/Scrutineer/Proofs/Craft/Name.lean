import Scrutineer.Craft.Name
import Scrutineer.Proofs.Numeric.Digits

/-! A part name belongs to a base name when it continues with an underscore and a
suffix; its own base name is the longest such base. Rules hold clean names only, and a
clean name has no underscore. -/

namespace Scrutineer
namespace Name

/-- A name that a rule can hold: it is not empty, and all its characters are of
the kept ones. -/
def IsClean (text : String) : Prop :=
  text ≠ "" ∧ ∀ character ∈ text.toList, isKept character = true

instance (text : String) : Decidable (IsClean text) :=
  decidable_of_iff (text ≠ "" ∧ text.toList.all isKept = true)
    (and_congr_right fun _ => List.all_eq_true)

/-! ### Sanitizing -/

@[simp] theorem toList_sanitize (text : String) :
    (sanitize text).toList = text.toList.filter isKept := by
  rw [sanitize, String.toList_ofList]

theorem sanitize_eq_self_iff (text : String) :
    sanitize text = text ↔ ∀ character ∈ text.toList, isKept character = true := by
  rw [← String.toList_inj, toList_sanitize, List.filter_eq_self]

theorem IsClean.sanitize_eq {text : String} (clean : IsClean text) : sanitize text = text :=
  (sanitize_eq_self_iff text).mpr clean.2

theorem isClean_sanitize {text : String} (left : sanitize text ≠ "") : IsClean (sanitize text) := by
  refine ⟨left, ?_⟩
  intro character member
  rw [toList_sanitize] at member
  exact (List.mem_filter.mp member).2

theorem IsClean.not_mem {text : String} (clean : IsClean text) {character : Char}
    (dropped : isKept character = false) : character ∉ text.toList := by
  intro member
  have kept := clean.2 character member
  rw [dropped] at kept
  cases kept

/-! ### Lists of names -/

private theorem toNat_of_isAlphanum {character : Char} (plain : character.isAlphanum = true) :
    48 ≤ character.toNat ∧ character.toNat ≤ 57 ∨ 65 ≤ character.toNat ∧ character.toNat ≤ 90 ∨
      97 ≤ character.toNat ∧ character.toNat ≤ 122 := by
  rcases (Bool.or_eq_true _ _).mp plain with letter | digit
  · rcases (Bool.or_eq_true _ _).mp letter with upper | lower
    · unfold Char.isUpper at upper
      exact .inr (.inl (of_decide_eq_true upper))
    · unfold Char.isLower at lower
      rw [Bool.and_eq_true] at lower
      exact .inr (.inr ⟨of_decide_eq_true lower.1, of_decide_eq_true lower.2⟩)
  · exact .inl ((Char.isDigit_iff_toNat character).mp digit)

theorem isBlank_of_isKept {character : Char} (kept : isKept character = true) :
    Text.isBlank character = false := by
  have known : character.isAlphanum = true ∨ character = '.' ∨ character = '-' := by
    unfold isKept at kept
    simpa only [Bool.or_eq_true, beq_iff_eq, or_assoc] using kept
  rcases known with plain | rfl | rfl
  · have code := toNat_of_isAlphanum plain
    unfold Text.isBlank
    simp only [Bool.or_eq_false_iff, Bool.and_eq_false_iff, decide_eq_false_iff_not,
      beq_eq_false_iff_ne]
    omega
  · decide
  · decide

theorem sanitize_withoutBlanks (text : String) : sanitize (withoutBlanks text) = sanitize text := by
  unfold sanitize withoutBlanks
  rw [String.toList_ofList, List.filter_filter]
  congr 1
  apply List.filter_congr
  intro character _member
  cases kept : isKept character with
  | false => rfl
  | true => rw [isBlank_of_isKept kept]; rfl

/-- The blanks need not be taken out, as no name keeps them. -/
theorem splitList_eq_sanitized (text : String) :
    splitList text =
      ((text.toList.splitOn ',').map fun item => sanitize (String.ofList item)).filter
        (· ≠ "") := by
  have blankless : (sanitize ∘ fun item => withoutBlanks (String.ofList item)) =
      fun item => sanitize (String.ofList item) :=
    funext fun item => sanitize_withoutBlanks (String.ofList item)
  rw [splitList, List.map_map, blankless]

theorem isClean_of_mem_splitList {text name : String} (member : name ∈ splitList text) :
    IsClean name := by
  rw [splitList_eq_sanitized] at member
  obtain ⟨listed, left⟩ := List.mem_filter.mp member
  obtain ⟨item, _within, same⟩ := List.mem_map.mp listed
  subst same
  exact isClean_sanitize (of_decide_eq_true left)

theorem splitList_of_isClean {name : String} (clean : IsClean name) : splitList name = [name] := by
  have whole : name.toList.splitOn ',' = [name.toList] :=
    List.splitOn_eq_singleton (clean.not_mem (by decide))
  rw [splitList_eq_sanitized, whole, List.map_singleton, String.ofList_toList, clean.sanitize_eq]
  exact List.filter_eq_self.mpr (by
    intro item member
    rw [List.mem_singleton.mp member]
    exact decide_eq_true clean.1)

theorem flatMap_splitList_of_isClean {names : List String}
    (clean : ∀ name ∈ names, IsClean name) : names.flatMap splitList = names := by
  induction names with
  | nil => rfl
  | cons name rest ih =>
      rw [List.flatMap_cons, splitList_of_isClean (clean name List.mem_cons_self),
        ih fun other member => clean other (List.mem_cons_of_mem name member)]
      rfl

/-! ### Base names -/

private theorem eq_append_underscore_iff (name base suffix : String) :
    name = base ++ "_" ++ suffix ↔ name.toList = base.toList ++ '_' :: suffix.toList := by
  rw [← String.toList_inj, String.toList_append, String.toList_append, List.append_assoc]
  rfl

private theorem isEmpty_toList_eq_false_iff (text : String) :
    text.toList.isEmpty = false ↔ text ≠ "" := by
  rw [List.isEmpty_eq_false_iff, ne_eq, String.toList_eq_nil_iff]

theorem matchesBase_iff (name base : String) :
    matchesBase name base = true ↔
      base ≠ "" ∧ ∃ suffix, suffix ≠ "" ∧ name = base ++ "_" ++ suffix := by
  unfold matchesBase
  rw [Bool.and_eq_true, decide_eq_true_iff]
  apply and_congr_right
  intro _present
  constructor
  · intro accepted
    split at accepted
    · rename_i first rest cut
      rw [Text.dropLead?_eq_some_iff] at cut
      refine ⟨String.ofList (first :: rest), by simp, ?_⟩
      rw [eq_append_underscore_iff, String.toList_ofList]
      exact cut
    · cases accepted
  · intro given
    rcases given with ⟨suffix, present, whole⟩
    rw [eq_append_underscore_iff, ← Text.dropLead?_eq_some_iff] at whole
    cases letters : suffix.toList with
    | nil => exact absurd (String.toList_eq_nil_iff.mp letters) present
    | cons first rest =>
        rw [whole, letters]
        rfl

theorem base?_eq_some_iff (name base : String) :
    base? name = some base ↔
      base ≠ "" ∧
        ∃ suffix, suffix ≠ "" ∧ '_' ∉ suffix.toList ∧ name = base ++ "_" ++ suffix := by
  unfold base?
  constructor
  · intro found
    split at found
    · rename_i before after cut
      split at found
      · cases found
      · rename_i bothPresent
        rw [Bool.or_eq_true, not_or, Bool.not_eq_true, Bool.not_eq_true] at bothPresent
        cases found
        rw [Text.splitAtLast?_eq_some_iff] at cut
        refine ⟨?_, String.ofList after, ?_, ?_, ?_⟩
        · rw [← isEmpty_toList_eq_false_iff, String.toList_ofList]
          exact bothPresent.1
        · rw [← isEmpty_toList_eq_false_iff, String.toList_ofList]
          exact bothPresent.2
        · rw [String.toList_ofList]
          exact cut.2
        · rw [eq_append_underscore_iff, String.toList_ofList, String.toList_ofList]
          exact cut.1
    · cases found
  · intro given
    rcases given with ⟨basePresent, suffix, suffixPresent, plain, whole⟩
    rw [eq_append_underscore_iff] at whole
    have cut := (Text.splitAtLast?_eq_some_iff '_' name.toList base.toList suffix.toList).mpr
      ⟨whole, plain⟩
    have someBase := (isEmpty_toList_eq_false_iff base).mpr basePresent
    have someSuffix := (isEmpty_toList_eq_false_iff suffix).mpr suffixPresent
    simp [cut, someBase, someSuffix]

theorem suffix_unique {base first second : String}
    (same : base ++ "_" ++ first = base ++ "_" ++ second) : first = second :=
  String.append_right_inj _ |>.mp same

theorem matchesBase_of_base? {name base : String} (found : base? name = some base) :
    matchesBase name base = true := by
  obtain ⟨present, suffix, suffixPresent, _plain, whole⟩ := (base?_eq_some_iff name base).mp found
  exact (matchesBase_iff name base).mpr ⟨present, suffix, suffixPresent, whole⟩

/-! ### Names with several underscores -/

/-- What stands before an underscore of a name also stands before it in all that
goes up to a later one. -/
private theorem cut_within {base other first second : String} {between : List Char}
    (longer : other.toList = base.toList ++ between)
    (rest : '_' :: first.toList = between ++ '_' :: second.toList) :
    base = other ∨
      ∃ middle, other = base ++ "_" ++ middle ∧ first = middle ++ "_" ++ second := by
  cases between with
  | nil =>
      rw [List.append_nil] at longer
      exact .inl (String.toList_inj.mp longer.symm)
  | cons head tail =>
      obtain ⟨underscore, tails⟩ := List.cons.inj rest
      subst underscore
      refine .inr ⟨String.ofList tail, ?_, ?_⟩
      · rw [eq_append_underscore_iff, String.toList_ofList]
        exact longer
      · rw [eq_append_underscore_iff, String.toList_ofList]
        exact tails

/-- A name that is cut at two underscores has been cut at the same one, or at one
before the other. -/
theorem cuts_cases {base other first second : String}
    (same : base ++ "_" ++ first = other ++ "_" ++ second) :
    base = other ∨
      (∃ middle, other = base ++ "_" ++ middle ∧ first = middle ++ "_" ++ second) ∨
      ∃ middle, base = other ++ "_" ++ middle ∧ second = middle ++ "_" ++ first := by
  have letters : base.toList ++ '_' :: first.toList = other.toList ++ '_' :: second.toList :=
    ((eq_append_underscore_iff _ base first).mp rfl).symm.trans
      ((eq_append_underscore_iff _ other second).mp same)
  rcases List.append_eq_append_iff.mp letters with ⟨between, longer, rest⟩ | ⟨between, longer, rest⟩
  · rcases cut_within longer rest with equal | later
    · exact .inl equal
    · exact .inr (.inl later)
  · rcases cut_within longer rest with equal | later
    · exact .inl equal.symm
    · exact .inr (.inr later)

theorem underscore_mem (first rest : String) : '_' ∈ (first ++ "_" ++ rest).toList := by
  rw [(eq_append_underscore_iff _ first rest).mp rfl]
  exact List.mem_append_right _ List.mem_cons_self

/-- The bases of a name with a base name of its own are this one, and what stands
in it before an underscore. -/
theorem matchesBase_iff_of_base? {name base : String} (found : base? name = some base)
    (other : String) :
    matchesBase name other = true ↔
      other = base ∨ other ≠ "" ∧ ∃ middle, base = other ++ "_" ++ middle := by
  obtain ⟨_present, suffix, some, plain, whole⟩ := (base?_eq_some_iff name base).mp found
  constructor
  · intro accepted
    obtain ⟨otherPresent, otherSuffix, _some, again⟩ := (matchesBase_iff name other).mp accepted
    rcases cuts_cases (whole.symm.trans again) with equal | ⟨middle, _longer, within⟩ |
      ⟨middle, longer, _suffix⟩
    · exact .inl equal.symm
    · rw [within] at plain
      exact absurd (underscore_mem middle otherSuffix) plain
    · exact .inr ⟨otherPresent, middle, longer⟩
  · intro given
    rcases given with rfl | ⟨otherPresent, middle, longer⟩
    · exact matchesBase_of_base? found
    · refine (matchesBase_iff name other).mpr ⟨otherPresent, middle ++ "_" ++ suffix, ?_, ?_⟩
      · intro empty
        have member := underscore_mem middle suffix
        rw [empty] at member
        cases member
      · rw [whole, longer]
        simp only [String.append_assoc]

theorem matchesBase_unique {name base other : String} (plain : '_' ∉ base.toList)
    (otherPlain : '_' ∉ other.toList) (accepted : matchesBase name base = true)
    (otherAccepted : matchesBase name other = true) : base = other := by
  obtain ⟨_present, suffix, _some, whole⟩ := (matchesBase_iff name base).mp accepted
  obtain ⟨_otherPresent, otherSuffix, _otherSome, again⟩ := (matchesBase_iff name other).mp otherAccepted
  rcases cuts_cases (whole.symm.trans again) with equal | ⟨middle, longer, _suffix⟩ |
    ⟨middle, longer, _suffix⟩
  · exact equal
  · rw [longer] at otherPlain
    exact absurd (underscore_mem base middle) otherPlain
  · rw [longer] at plain
    exact absurd (underscore_mem other middle) plain

end Name
end Scrutineer
