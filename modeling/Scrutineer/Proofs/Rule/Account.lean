import Scrutineer.Proofs.Rule.AlternativeKey

/-! Whatever has been noted before, a read gives a value and notes nothing, or it
gives none and notes one error under the key that was read. So the errors at the end
are those of the calls by themselves, in the order of the calls, and a rule is built
exactly if there are none and all of it could be built. -/

namespace Scrutineer

/-! ### Slots and missing values -/

namespace Slot

variable {Value : Type}

/-- A slot does not say of a value that it is missing. -/
def FindsValues (slot : Slot Value) : Prop :=
  ∀ value, slot value ≠ .error .missing

theorem bind_ne_error {First : Type} {first : Except ParamFault First}
    {next : First → Except ParamFault Value} {fault : ParamFault} (atFirst : first ≠ .error fault)
    (atNext : ∀ made, next made ≠ .error fault) : (first >>= next) ≠ .error fault := by
  cases first with
  | error other =>
      intro same
      cases same
      exact atFirst rfl
  | ok made => exact atNext made

theorem rawText_findsValues : rawText.FindsValues := by
  intro value
  cases value <;> simp [rawText]

theorem name_findsValues : name.FindsValues := by
  intro value
  refine bind_ne_error (rawText_findsValues value) ?_
  intro text
  dsimp only
  split <;> simp

theorem tagged_findsValues {find : String → Option Value} {unknown : String → ParamFault}
    (otherwise : ∀ tag, unknown tag ≠ .missing) : (tagged find unknown).FindsValues := by
  intro value
  refine bind_ne_error (rawText_findsValues value) ?_
  intro tag
  split
  · simp
  · simpa using otherwise tag

theorem count_findsValues : count.FindsValues := by
  intro value
  unfold count
  dsimp only
  split <;> simp

theorem double_findsValues : double.FindsValues := by
  intro value
  unfold double
  dsimp only
  split <;> simp

theorem reference_findsValues (form : Form) : (reference form).FindsValues := by
  intro value
  unfold reference
  dsimp only
  split
  case h_4 => simp
  all_goals
    split
    · simp
    · split <;> simp

theorem listedNames_ne_missing (items : List Json) : listedNames items ≠ .error .missing := by
  induction items with
  | nil => simp [listedNames]
  | cons item rest ih =>
      cases item with
      | text content =>
          refine bind_ne_error ih ?_
          intro names
          simp [pure, Except.pure]
      | _ => simp [listedNames]

theorem partSet_findsValues : partSet.FindsValues := by
  have atLeastOne (names : List String) :
      (if names.isEmpty then Except.error ParamFault.emptyPartSet else .ok names) ≠
        .error .missing := by
    split <;> simp
  intro value
  cases value with
  | text content => exact atLeastOne _
  | array items => exact bind_ne_error (listedNames_ne_missing items) atLeastOne
  | _ => simp [partSet, bind, Except.bind]

theorem definition_findsValues : definition.FindsValues := by
  intro value
  unfold definition
  split <;> simp

end Slot

/-! ### How reads end -/

/-- The three ways in which the read of a parameter ends, whatever has been noted
before. -/
inductive Noting.Ends {Value : Type} (task : Noting Value) (params : Members) (key : String) :
    Prop where
  | given (value : Value) (has : Entries.hasValue params key = true)
      (run : ∀ errors, task.run.run errors = (some value, errors))
  | missing (without : Entries.hasValue params key = false)
      (run : ∀ errors, task.run.run errors = (none, errors ++ [{ key, fault := .missing }]))
  | faulty (fault : ParamFault) (has : Entries.hasValue params key = true)
      (other : fault ≠ .missing)
      (run : ∀ errors, task.run.run errors = (none, errors ++ [{ key, fault := fault }]))

theorem Slot.FindsValues.ends {Value : Type} {slot : Slot Value} (finds : slot.FindsValues)
    {task : Noting Value} {params : Members} {key : String}
    (gives : task.Gives (Reading.slot slot params key)) : task.Ends params key := by
  cases has : Entries.hasValue params key with
  | false =>
      rw [Reading.slot, slot.read_of_not_hasValue has] at gives
      exact .missing has gives
  | true =>
      obtain ⟨value, found, present⟩ := Entries.exists_of_hasValue has
      rw [Reading.slot, slot.read_of_find? found present] at gives
      cases made : slot value with
      | ok known =>
          rw [made] at gives
          refine .given known has fun errors => ?_
          rw [gives errors, Reading.ofExcept, List.append_nil]
      | error fault =>
          rw [made] at gives
          exact .faulty fault has (fun same => finds value (same ▸ made)) gives

namespace Reader

variable (reader : Reader)

def Call.key (params : Members) : Call → String
  | .nameUnder first others => Reading.presentKey params first others
  | .name key | .operator key | .matcher key | .building key | .count key | .double key
  | .reference _ key | .partSet key | .definition key | .nestedError key _ => key

def Call.IsRead : Call → Prop
  | .nestedError .. => False
  | _ => True

theorem answer_ends {call : Call} (isRead : call.IsRead) :
    (reader.answer call).Ends reader.params (call.key reader.params) := by
  cases call with
  | name key => exact Slot.name_findsValues.ends (reader.gives_name key)
  | nameUnder first others =>
      exact Slot.name_findsValues.ends (reader.gives_nameUnder first others)
  | operator key => exact (Slot.tagged_findsValues (by simp)).ends (reader.gives_operator key)
  | matcher key => exact (Slot.tagged_findsValues (by simp)).ends (reader.gives_matcher key)
  | building key => exact (Slot.tagged_findsValues (by simp)).ends (reader.gives_building key)
  | count key => exact Slot.count_findsValues.ends (reader.gives_count key)
  | double key => exact Slot.double_findsValues.ends (reader.gives_double key)
  | reference form key =>
      exact (Slot.reference_findsValues form).ends (reader.gives_reference form key)
  | partSet key => exact Slot.partSet_findsValues.ends (reader.gives_partSet key)
  | definition key => exact Slot.definition_findsValues.ends (reader.gives_definition key)
  | nestedError key error => exact isRead.elim

/-! ### Steps and runs -/

/-- What a call notes by itself. -/
def noted (call : Call) : List ParamError :=
  (reader.perform [] call).2

/-- One call adds what it notes by itself, and what it gives is what it gives first. -/
theorem perform_eq (errors : List ParamError) (call : Call) :
    reader.perform errors call = ((reader.perform [] call).1, errors ++ reader.noted call) := by
  unfold noted perform
  by_cases isRead : call.IsRead
  · cases reader.answer_ends isRead with
    | given value has run => rw [run errors, run [], List.append_nil]
    | missing without run | faulty fault has other run => rw [run errors, run [], List.nil_append]
  · cases call with
    | nestedError key error => rfl
    | _ => exact absurd trivial isRead

theorem performAll_eq (errors : List ParamError) (calls : List Call) :
    reader.performAll errors calls = errors ++ calls.flatMap reader.noted := by
  induction calls generalizing errors with
  | nil => exact (List.append_nil errors).symm
  | cons call rest ih =>
      rw [performAll, ih, perform_eq, List.flatMap_cons, List.append_assoc]

/-! ### The account -/

/-- How a reader keeps account of errors, whatever has been noted before. -/
structure KeepsAccount : Prop where
  step : ∀ call : Call, call.IsRead → ∀ errors,
    (∃ value, reader.perform errors call = (some value, errors)) ∨
      ∃ fault, reader.perform errors call =
        (none, errors ++ [{ key := call.key reader.params, fault }])
  nestedError : ∀ key error errors,
    (reader.perform errors (.nestedError key error)).2 =
      errors ++ [{ key, fault := .nested error.message }]
  same : ∀ call errors,
    reader.perform errors call = ((reader.perform [] call).1, errors ++ reader.noted call)
  /-- What a read notes is that the value is missing, if there is none but null, and
  only then. -/
  missing : ∀ call : Call, call.IsRead → ∀ errors,
    (reader.perform errors call).2 =
        errors ++ [{ key := call.key reader.params, fault := .missing }] ↔
      Entries.hasValue reader.params (call.key reader.params) = false
  errors : ∀ calls, reader.performAll [] calls = calls.flatMap reader.noted
  accepts : ∀ {Value : Type} (calls : List Call) (built : Option Value) (value : Value),
    reader.finish built (reader.performAll [] calls) = .ok value ↔
      built = some value ∧ ∀ call ∈ calls, reader.noted call = []
  rejects : ∀ {Value : Type} (calls : List Call) (built : Option Value),
    (built = none ∨ ∃ call ∈ calls, reader.noted call ≠ []) →
      reader.finish built (reader.performAll [] calls) =
        .error (.invalidParams reader.strategy (calls.flatMap reader.noted))

/-- Every reader keeps account in this way. -/
theorem keepsAccount : reader.KeepsAccount where
  step := by
    intro call isRead errors
    unfold perform
    cases reader.answer_ends isRead with
    | given value has run => exact .inl ⟨value, run errors⟩
    | missing without run => exact .inr ⟨.missing, run errors⟩
    | faulty fault has other run => exact .inr ⟨fault, run errors⟩
  nestedError := fun _key _error _errors => rfl
  same := fun call errors => reader.perform_eq errors call
  missing := by
    intro call isRead errors
    unfold perform
    cases reader.answer_ends isRead with
    | given value has run => simp [run, has]
    | missing without run => simp [run, without]
    | faulty fault has other run => simp [run, has, other]
  errors := by
    intro calls
    rw [performAll_eq, List.nil_append]
  accepts := by
    intro Value calls built value
    rw [performAll_eq, List.nil_append, finish_eq, Reading.finish_eq_ok_iff,
      List.flatMap_eq_nil_iff]
  rejects := by
    intro Value calls built rejected
    rw [performAll_eq, List.nil_append, finish_eq]
    apply Reading.finish_of_rejected
    rcases rejected with unbuilt | ⟨call, member, some⟩
    · exact .inl unbuilt
    · exact .inr fun none => some (List.flatMap_eq_nil_iff.mp none call member)

-- Three reads at fault, one of them twice, and each fault is noted.
example :
    let reader : Reader :=
      { strategy := "part_set_count", params := [("op", .text "between"), ("value", .text "many")] }
    reader.performAll [] [.partSet "parts", .operator "op", .count "value", .operator "op"] =
      [{ key := "parts", fault := .missing }, { key := "op", fault := .unknownOperator "between" },
        { key := "value", fault := .notAnInteger "many" },
        { key := "op", fault := .unknownOperator "between" }] := by
  decide

end Reader
end Scrutineer
