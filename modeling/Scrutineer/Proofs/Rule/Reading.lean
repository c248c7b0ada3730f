import Scrutineer.Rule.Reading

/-! A combined reading has an outcome exactly when all its parts have one, and its
errors are those of its parts, one after the other. A reading that has an outcome
exactly when it has no errors is called settled; readings of single parameters are
settled, and combining settled readings gives settled ones. -/

namespace Scrutineer
namespace Reading

variable {Value Other : Type}

/-! ### Outcomes and errors of combined readings -/

theorem ext {left right : Reading Value} (outcomes : left.outcome = right.outcome)
    (errors : left.errors = right.errors) : left = right := by
  cases left
  cases right
  rw [mk.injEq]
  exact ⟨outcomes, errors⟩

@[simp] theorem errors_map (apply : Value → Other) (reading : Reading Value) :
    (apply <$> reading).errors = reading.errors := by
  change [] ++ reading.errors = reading.errors
  rw [List.nil_append]

@[simp] theorem errors_seq (function : Reading (Value → Other)) (argument : Reading Value) :
    (function <*> argument).errors = function.errors ++ argument.errors :=
  rfl

theorem outcome_map (apply : Value → Other) (reading : Reading Value) :
    (apply <$> reading).outcome = reading.outcome.map apply :=
  rfl

theorem outcome_seq (function : Reading (Value → Other)) (argument : Reading Value) :
    (function <*> argument).outcome =
      function.outcome.bind fun apply => argument.outcome.map apply :=
  rfl

theorem outcome_map_eq_some_iff (apply : Value → Other) (reading : Reading Value) (made : Other) :
    (apply <$> reading).outcome = some made ↔
      ∃ value, reading.outcome = some value ∧ apply value = made := by
  change reading.outcome.map apply = some made ↔ _
  exact Option.map_eq_some_iff

theorem outcome_seq_eq_some_iff (function : Reading (Value → Other)) (argument : Reading Value)
    (made : Other) :
    (function <*> argument).outcome = some made ↔
      ∃ apply, function.outcome = some apply ∧
        ∃ value, argument.outcome = some value ∧ apply value = made := by
  change (function.outcome.bind fun apply => argument.outcome.map apply) = some made ↔ _
  simp only [Option.bind_eq_some_iff, Option.map_eq_some_iff]

@[simp] theorem outcome_ofExcept_eq_some_iff (key : String) (read : Except ParamFault Value)
    (value : Value) : (ofExcept key read).outcome = some value ↔ read = .ok value := by
  cases read with
  | error fault => simp [ofExcept]
  | ok held => simp [ofExcept]

@[simp] theorem outcome_slot_eq_some_iff (slot : Slot Value) (params : Members) (key : String)
    (value : Value) :
    (Reading.slot slot params key).outcome = some value ↔ slot.read params key = .ok value :=
  outcome_ofExcept_eq_some_iff key (slot.read params key) value

/-! ### The end of a reading -/

theorem finish_eq_ok_iff (strategy : String) (reading : Reading Value) (value : Value) :
    reading.finish strategy = .ok value ↔ reading.outcome = some value ∧ reading.errors = [] := by
  obtain ⟨outcome, errors⟩ := reading
  unfold finish
  cases outcome with
  | none => simp
  | some held => cases errors <;> simp

theorem finish_of_rejected (strategy : String) {reading : Reading Value}
    (rejected : reading.outcome = none ∨ reading.errors ≠ []) :
    reading.finish strategy = .error (.invalidParams strategy reading.errors) := by
  obtain ⟨outcome, errors⟩ := reading
  unfold finish
  cases outcome with
  | none => rfl
  | some held =>
      cases errors with
      | nil => exact absurd rejected (by simp)
      | cons first others => rfl

theorem finish_of_errors (strategy : String) {reading : Reading Value}
    (errors : reading.errors ≠ []) :
    reading.finish strategy = .error (.invalidParams strategy reading.errors) :=
  finish_of_rejected strategy (.inr errors)

/-! ### Settled readings -/

/-- A reading is settled when it has an outcome exactly if nothing is at fault. -/
def Settled (reading : Reading Value) : Prop :=
  reading.outcome.isSome = true ↔ reading.errors = []

theorem settled_ofExcept (key : String) (read : Except ParamFault Value) :
    (ofExcept key read).Settled := by
  cases read with
  | error fault => simp [Settled, ofExcept]
  | ok value => simp [Settled, ofExcept]

theorem settled_slot (slot : Slot Value) (params : Members) (key : String) :
    (Reading.slot slot params key).Settled :=
  settled_ofExcept key (slot.read params key)

theorem Settled.map {reading : Reading Value} (settled : reading.Settled) (apply : Value → Other) :
    (apply <$> reading).Settled := by
  unfold Settled at settled ⊢
  rw [errors_map, ← settled]
  change (reading.outcome.map apply).isSome = true ↔ _
  rw [Option.isSome_map]

theorem Settled.seq {function : Reading (Value → Other)} {argument : Reading Value}
    (functionSettled : function.Settled) (argumentSettled : argument.Settled) :
    (function <*> argument).Settled := by
  unfold Settled at functionSettled argumentSettled ⊢
  rw [errors_seq, List.append_eq_nil_iff, ← functionSettled, ← argumentSettled]
  change (function.outcome.bind fun apply => argument.outcome.map apply).isSome = true ↔ _
  cases function.outcome with
  | none => simp
  | some apply => simp

theorem Settled.finish_eq_ok_iff {reading : Reading Value} (settled : reading.Settled)
    (strategy : String) (value : Value) :
    reading.finish strategy = .ok value ↔ reading.outcome = some value := by
  rw [Reading.finish_eq_ok_iff, and_iff_left_iff_imp]
  intro given
  exact settled.mp (given ▸ rfl)

theorem Settled.exists_finish_eq_ok {reading : Reading Value} (settled : reading.Settled)
    (strategy : String) (noErrors : reading.errors = []) :
    ∃ value, reading.finish strategy = .ok value := by
  obtain ⟨value, outcome⟩ := Option.isSome_iff_exists.mp (settled.mpr noErrors)
  exact ⟨value, (settled.finish_eq_ok_iff strategy value).mpr outcome⟩

end Reading
end Scrutineer
