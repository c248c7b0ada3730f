import Scrutineer.Rule.Reader
import Scrutineer.Proofs.Rule.Slot
import Scrutineer.Proofs.Rule.Reading

/-! Readers and slots. Whatever has been noted before, a read gives what the slot of
its kind makes of the value under the key, and what is noted then is the complaint of
the slot. So a read is a step of its own, which depends on the parameters only. -/

namespace Scrutineer

namespace Noting

variable {Value Other : Type}

/-- A task gives the outcome of a reading and notes the errors of it, whatever has
been noted before. -/
def Gives (task : Noting Value) (reading : Reading Value) : Prop :=
  ∀ errors, task.run.run errors = (reading.outcome, errors ++ reading.errors)

theorem gives_pure (key : String) (value : Value) :
    Gives (pure value) (Reading.ofExcept key (.ok value)) := by
  intro errors
  change (some value, errors) = (some value, errors ++ [])
  rw [List.append_nil]

theorem gives_fault (key : String) (fault : ParamFault) :
    Gives (Reader.note key fault >>= fun _ => (failure : Noting Value))
      (Reading.ofExcept key (.error fault)) :=
  fun _errors => rfl

theorem Gives.bind {first : Noting Value} {next : Value → Noting Other} {key : String}
    {made : Except ParamFault Value} {following : Value → Except ParamFault Other}
    (gives : first.Gives (Reading.ofExcept key made))
    (each : ∀ value, (next value).Gives (Reading.ofExcept key (following value))) :
    (first >>= next).Gives (Reading.ofExcept key (made >>= following)) := by
  intro errors
  rw [OptionT.run_bind, Option.elimM, StateT.run_bind, gives errors]
  cases made with
  | error fault => rfl
  | ok value =>
      change (next value).run.run (errors ++ []) = _
      rw [List.append_nil]
      exact each value errors

end Noting

theorem Slot.read_bind {First Value : Type} (first : Slot First)
    (following : First → Except ParamFault Value) (params : Members) (key : String) :
    read (fun value => first value >>= following) params key =
      (first.read params key >>= following) := by
  unfold read
  split <;> rfl

namespace Reader

variable {Value : Type} (reader : Reader)

theorem raw_of_find? {key : String} {value : Json}
    (found : Entries.find? key reader.params = some value) (present : value ≠ .null) :
    reader.raw key = pure ⟨value, found⟩ := by
  have attached : (Entries.find? key reader.params).attach = some ⟨value, found⟩ :=
    Option.attach_eq_some_iff.mpr found
  unfold raw
  rw [attached]
  cases value with
  | null => exact absurd rfl present
  | _ => rfl

theorem raw_of_missing {key : String}
    (missing : Entries.find? key reader.params = none ∨
      Entries.find? key reader.params = some .null) :
    reader.raw key = (do note key .missing; failure) := by
  unfold raw
  rcases missing with none | null
  · rw [Option.attach_eq_none_iff.mpr none]
  · have attached : (Entries.find? key reader.params).attach = some ⟨.null, null⟩ :=
      Option.attach_eq_some_iff.mpr null
    rw [attached]

/-- What goes on with the value under a key goes on as a slot does. -/
theorem gives_raw_bind {slot : Slot Value} {key : String}
    {next : { value // Entries.find? key reader.params = some value } → Noting Value}
    (each : ∀ stored, (next stored).Gives (Reading.ofExcept key (slot stored.val))) :
    (reader.raw key >>= next).Gives (Reading.slot slot reader.params key) := by
  by_cases present : ∃ value, Entries.find? key reader.params = some value ∧ value ≠ .null
  · obtain ⟨value, found, notNull⟩ := present
    rw [reader.raw_of_find? found notNull, pure_bind, Reading.slot,
      Slot.read_of_find? found notNull]
    exact each ⟨value, found⟩
  · have missing : Entries.find? key reader.params = none ∨
        Entries.find? key reader.params = some .null := by
      rcases Option.eq_none_or_eq_some (Entries.find? key reader.params) with none | ⟨value, found⟩
      · exact .inl none
      · have isNull : value = .null := by
          by_contra notNull
          exact present ⟨value, found, notNull⟩
        exact .inr (isNull ▸ found)
    have unread : slot.read reader.params key = .error .missing := by
      unfold Slot.read
      rcases missing with none | null
      · rw [none]
      · rw [null]
    rw [reader.raw_of_missing missing, Reading.slot, unread]
    exact fun _errors => rfl

/-! ### The reads -/

theorem gives_rawText (key : String) :
    (reader.rawText key).Gives (Reading.slot Slot.rawText reader.params key) := by
  apply reader.gives_raw_bind
  rintro ⟨value, found⟩
  cases value with
  | text content => exact Noting.gives_pure key content
  | number value => exact Noting.gives_pure key _
  | _ => exact Noting.gives_fault key _

theorem gives_rawText_bind {key : String} {next : String → Noting Value}
    {following : String → Except ParamFault Value}
    (each : ∀ text, (next text).Gives (Reading.ofExcept key (following text))) :
    (reader.rawText key >>= next).Gives
      (Reading.slot (fun value => Slot.rawText value >>= following) reader.params key) := by
  rw [Reading.slot, Slot.read_bind]
  exact (reader.gives_rawText key).bind each

theorem gives_name (key : String) :
    (reader.name key).Gives (Reading.slot Slot.name reader.params key) := by
  apply reader.gives_rawText_bind
  intro text
  dsimp only
  split
  · exact Noting.gives_fault key .empty
  · exact Noting.gives_pure key _

theorem gives_nameUnder (first : String) (others : List String) :
    (reader.nameUnder first others).Gives (Reading.nameUnder reader.params first others) :=
  reader.gives_name (Reading.presentKey reader.params first others)

theorem gives_tagged (find : String → Option Value) (unknown : String → ParamFault)
    (key : String) :
    (reader.tagged find unknown key).Gives
      (Reading.slot (Slot.tagged find unknown) reader.params key) := by
  apply reader.gives_rawText_bind
  intro tag
  cases find tag with
  | some known => exact Noting.gives_pure key known
  | none => exact Noting.gives_fault key (unknown tag)

theorem gives_operator (key : String) :
    (reader.operator key).Gives (Reading.slot Slot.operator reader.params key) :=
  reader.gives_tagged Operator.ofTag? .unknownOperator key

theorem gives_matcher (key : String) :
    (reader.matcher key).Gives (Reading.slot Slot.matcher reader.params key) :=
  reader.gives_tagged SetMatcher.ofTag? .unknownMatcher key

theorem gives_building (key : String) :
    (reader.building key).Gives (Reading.slot Slot.building reader.params key) :=
  reader.gives_tagged Building.ofTag? .unknownLocation key

/-- What is known is given, and when nothing is known a fault is noted. -/
theorem gives_known (key : String) (known : Option Value) {fault : ParamFault}
    {made : Except ParamFault Value} (same : made = known.elim (.error fault) .ok) :
    Noting.Gives (do
      if known.isNone then
        note key fault
      OptionT.mk (return known))
      (Reading.ofExcept key made) := by
  rw [same]
  cases known with
  | some value => exact Noting.gives_pure key value
  | none => exact Noting.gives_fault key fault

theorem gives_count (key : String) :
    (reader.count key).Gives (Reading.slot Slot.count reader.params key) := by
  apply reader.gives_raw_bind
  rintro ⟨value, found⟩
  refine gives_known key _ ?_
  cases value with
  | number number =>
      change _ = (Slot.countOfNumber? number).elim _ _
      unfold Slot.count
      dsimp only
      cases Slot.countOfNumber? number <;> rfl
  | text content =>
      change _ = (Count.ofText? (Text.trim content)).elim _ _
      unfold Slot.count
      dsimp only
      cases Count.ofText? (Text.trim content) <;> rfl
  | _ => rfl

theorem gives_double (key : String) :
    (reader.double key).Gives (Reading.slot Slot.double reader.params key) := by
  apply reader.gives_raw_bind
  rintro ⟨value, found⟩
  refine gives_known key _ ?_
  cases value with
  | number number =>
      change _ = ((some number.toDouble).filter Double.isFinite).elim _ _
      unfold Slot.double
      dsimp only
      cases (some number.toDouble).filter Double.isFinite <;> rfl
  | text content =>
      change _ = ((Double.ofText? (Text.trim content)).filter Double.isFinite).elim _ _
      unfold Slot.double
      dsimp only
      cases (Double.ofText? (Text.trim content)).filter Double.isFinite <;> rfl
  | _ => rfl

theorem gives_reference (form : Form) (key : String) :
    (reader.reference form key).Gives
      (Reading.slot (Slot.reference form) reader.params key) := by
  apply reader.gives_raw_bind
  rintro ⟨value, found⟩
  unfold Slot.reference
  -- What is usable is given, and the complaint about what is not depends on the form.
  cases value <;> dsimp only
  case number | text | truth =>
    split
    · exact Noting.gives_pure key _
    · cases form <;> exact Noting.gives_fault key _
  all_goals exact Noting.gives_fault key _

/-- The first item that is no text is what both complain of. -/
theorem listedNames_eq (items : List Json) :
    Slot.listedNames items =
      ((items.find? (·.text?.isNone)).elim
        (.ok ((items.filterMap Json.text?).flatMap Name.splitList))
        fun bad => .error (.wrongType "array of strings" bad.kindName)) := by
  induction items with
  | nil => rfl
  | cons item rest ih =>
      cases item with
      | text content =>
          rw [Slot.listedNames, ih, List.find?_cons_of_neg (by simp [Json.text?])]
          cases rest.find? (·.text?.isNone) <;> rfl
      | _ => rfl

theorem gives_partSet (key : String) :
    (reader.partSet key).Gives (Reading.slot Slot.partSet reader.params key) := by
  apply reader.gives_raw_bind
  rintro ⟨value, found⟩
  have atLeastOne (names : List String) :
      Noting.Gives (if names.isEmpty then do note key .emptyPartSet; failure else pure names)
        (Reading.ofExcept key
          (if names.isEmpty then .error .emptyPartSet else .ok names)) := by
    split
    · exact Noting.gives_fault key .emptyPartSet
    · exact Noting.gives_pure key names
  cases value with
  | text content => exact atLeastOne (Name.splitList content)
  | array items =>
      have listed : Slot.partSet (.array items) =
          (Slot.listedNames items >>= fun names =>
            if names.isEmpty then .error .emptyPartSet else .ok names) :=
        rfl
      rw [listed, listedNames_eq]
      dsimp only
      cases items.find? (·.text?.isNone) with
      | some bad => exact Noting.gives_fault key _
      | none => exact atLeastOne _
  | _ => exact Noting.gives_fault key _

theorem gives_definition (key : String) :
    (Definition.Within.toDefinition <$> reader.definition key).Gives
      (Reading.slot Slot.definition reader.params key) := by
  rw [definition, map_bind]
  apply reader.gives_raw_bind
  rintro ⟨value, found⟩
  dsimp only
  unfold Slot.definition
  split
  · rename_i named held
    rw [map_pure]
    dsimp only
    rw [named, held]
    exact Noting.gives_pure key _
  · rename_i other
    split
    · rename_i named held
      exact (other _ _ named held).elim
    · exact fun _errors => rfl

theorem exists_within {key : String} {inner : Definition}
    (read : Slot.definition.read reader.params key = .ok inner) :
    ∃ within : Definition.Within reader.params, within.toDefinition = inner := by
  have given := reader.gives_definition key []
  rw [Reading.slot, read, OptionT.run_map, StateT.run_map] at given
  have outcome := congrArg Prod.fst given
  obtain ⟨within, _run, same⟩ := Option.map_eq_some_iff.mp outcome
  exact ⟨within, same⟩

end Reader
end Scrutineer
