import Scrutineer.Rule.Slot

/-! A reading is what came of one or more parameters: the outcome, when all of them
could be read, and the errors of those that could not, in the order of reading. No
reading depends on another one, so one faulty parameter never hides a second. -/

namespace Scrutineer

structure Reading (Value : Type) where
  outcome : Option Value
  errors : List ParamError

namespace Reading

variable {Value : Type}

def ofExcept (key : String) : Except ParamFault Value → Reading Value
  | .ok value => { outcome := some value, errors := [] }
  | .error fault => { outcome := none, errors := [{ key, fault }] }

def slot (slot : Slot Value) (params : Members) (key : String) : Reading Value :=
  ofExcept key (slot.read params key)

/-- The first of the keys that has a value other than null; the very first key
when none has. -/
def presentKey (params : Members) (first : String) (others : List String) : String :=
  ((first :: others).find? fun key =>
    match Entries.find? key params with
    | none | some .null => false
    | some _ => true).getD first

/-- Reads a name under the first of several keys that has a value. An error is
reported under the key that was read. -/
def nameUnder (params : Members) (first : String) (others : List String) : Reading String :=
  slot Slot.name params (presentKey params first others)

/-- The outcome of readings is made of all their outcomes, and their errors
come one after the other. -/
instance : Applicative Reading where
  pure value := { outcome := some value, errors := [] }
  seq function argument :=
    let later := argument ()
    { outcome := function.outcome.bind fun apply => later.outcome.map apply
      errors := function.errors ++ later.errors }

/-- What is made of the parameters of a strategy: the outcome, when there is
one and no parameter is at fault. -/
def finish (strategy : String) (reading : Reading Value) : Except RuleError Value :=
  match reading.outcome, reading.errors with
  | some value, [] => .ok value
  | _, errors => .error (.invalidParams strategy errors)

end Reading

end Scrutineer
