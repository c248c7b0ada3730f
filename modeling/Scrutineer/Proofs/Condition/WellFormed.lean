import Scrutineer.Condition.Basic
import Scrutineer.Proofs.Craft.Name

/-! A condition is well-formed when, at every depth, its names are clean, its lists of
names are not empty, its limits are finite, and each value that a property is compared
with can be compared in the form of the check. Counts, operators, matchers, buildings
and the shape of the connectives are free. -/

namespace Scrutineer

namespace Scalar

/-- A scalar as a rule can hold it: a finite number, a truth value where values
are compared as texts, or a text without blanks at its ends. -/
def IsHeld (form : Form) : Scalar → Prop
  | .number value => value.isFinite = true
  | .truth _ => form = .text
  | .text content => Text.trim content = content

/-- A scalar that has a form: as a double only a finite one counts. -/
def ReadsAs (value : Scalar) : Form → Prop
  | .double => (value.asDouble?.filter Double.isFinite).isSome = true
  | .count => value.asCount?.isSome = true
  | .text => True

def IsReference (form : Form) (value : Scalar) : Prop :=
  value.IsHeld form ∧ value.ReadsAs form

instance (form : Form) : (value : Scalar) → Decidable (value.IsHeld form)
  | .number value => inferInstanceAs (Decidable (value.isFinite = true))
  | .truth _ => inferInstanceAs (Decidable (form = .text))
  | .text content => inferInstanceAs (Decidable (Text.trim content = content))

instance (value : Scalar) : (form : Form) → Decidable (value.ReadsAs form)
  | .double => inferInstanceAs (Decidable (_ = true))
  | .count => inferInstanceAs (Decidable (_ = true))
  | .text => inferInstanceAs (Decidable True)

instance (form : Form) (value : Scalar) : Decidable (value.IsReference form) :=
  inferInstanceAs (Decidable (_ ∧ _))

end Scalar

def Bound.WellFormed (bound : Bound) : Prop :=
  bound.limit.isFinite = true

instance (bound : Bound) : Decidable bound.WellFormed :=
  inferInstanceAs (Decidable (_ = _))

structure PropertyCheck.WellFormed (check : PropertyCheck) : Prop where
  part : Name.IsClean check.part
  target : Name.IsClean check.target
  key : Name.IsClean check.key
  value : check.value.IsReference check.comparator.form

instance (check : PropertyCheck) : Decidable check.WellFormed :=
  decidable_of_iff
    (Name.IsClean check.part ∧ Name.IsClean check.target ∧ Name.IsClean check.key ∧
      check.value.IsReference check.comparator.form)
    ⟨fun ⟨part, target, key, value⟩ => ⟨part, target, key, value⟩,
      fun ⟨part, target, key, value⟩ => ⟨part, target, key, value⟩⟩

def Name.WellFormedSet (names : List String) : Prop :=
  names ≠ [] ∧ ∀ name ∈ names, Name.IsClean name

instance (names : List String) : Decidable (Name.WellFormedSet names) :=
  inferInstanceAs (Decidable (_ ∧ _))

namespace Condition

/-- A condition is well-formed when every check inside of it is. -/
def WellFormed : Condition → Prop
  | .builtIn _ => True
  | .size x y z => x.WellFormed ∧ y.WellFormed ∧ z.WellFormed
  | .partCount _ _ => True
  | .partExists part => Name.IsClean part
  | .partNotExists part => Name.IsClean part
  | .partSetContains parts _ => Name.WellFormedSet parts
  | .partSetCount parts _ _ => Name.WellFormedSet parts
  | .moduleProperty check => check.WellFormed
  | .resourceProperty check => check.WellFormed ∧ check.comparator.form = .double
  | .cost bound => bound.WellFormed
  | .mass bound => bound.WellFormed
  | .points bound => bound.WellFormed
  | .not condition => condition.WellFormed
  | .and left right => left.WellFormed ∧ right.WellFormed
  | .or left right => left.WellFormed ∧ right.WellFormed
  | .xor left right => left.WellFormed ∧ right.WellFormed

instance decidableWellFormed : (condition : Condition) → Decidable condition.WellFormed
  | .builtIn _ => inferInstanceAs (Decidable True)
  | .size _ _ _ => inferInstanceAs (Decidable (_ ∧ _ ∧ _))
  | .partCount _ _ => inferInstanceAs (Decidable True)
  | .partExists part => inferInstanceAs (Decidable (Name.IsClean part))
  | .partNotExists part => inferInstanceAs (Decidable (Name.IsClean part))
  | .partSetContains parts _ => inferInstanceAs (Decidable (Name.WellFormedSet parts))
  | .partSetCount parts _ _ => inferInstanceAs (Decidable (Name.WellFormedSet parts))
  | .moduleProperty check => inferInstanceAs (Decidable check.WellFormed)
  | .resourceProperty check => inferInstanceAs (Decidable (check.WellFormed ∧ _ = _))
  | .cost bound => inferInstanceAs (Decidable bound.WellFormed)
  | .mass bound => inferInstanceAs (Decidable bound.WellFormed)
  | .points bound => inferInstanceAs (Decidable bound.WellFormed)
  | .not condition => decidableWellFormed condition
  | .and left right =>
      have := decidableWellFormed left
      have := decidableWellFormed right
      inferInstanceAs (Decidable (left.WellFormed ∧ right.WellFormed))
  | .or left right =>
      have := decidableWellFormed left
      have := decidableWellFormed right
      inferInstanceAs (Decidable (left.WellFormed ∧ right.WellFormed))
  | .xor left right =>
      have := decidableWellFormed left
      have := decidableWellFormed right
      inferInstanceAs (Decidable (left.WellFormed ∧ right.WellFormed))

example :
    (Condition.not (.partSetContains ["fuelTank", "Mk1.Pod-v2"] .all)).WellFormed ∧
      ¬ (Condition.not (.partExists "fuel_tank")).WellFormed := by
  decide

end Condition
end Scrutineer
