import Scrutineer.Comparison.Form
import Scrutineer.Comparison.Operator

/-! Comparing property values. A comparator brings both sides into one form and asks
whether an operator holds between them. A side that does not have the form satisfies
nothing. -/

namespace Scrutineer

structure Comparator where
  operator : Operator
  form : Form
deriving DecidableEq

namespace Comparator

/-- Whether the operator holds between two scalars. If a side does not have the
form, it does not. -/
def compare (comparator : Comparator) (actual reference : Scalar) : Bool :=
  match comparator.form.of? actual, comparator.form.of? reference with
  | some left, some right => comparator.operator.holds (left.order? right)
  | _, _ => false

structure Draft where
  operator : Option Operator
  form : Option Form

def shape : Decoder.Shape Draft Comparator where
  wanted := "struct Comparator"
  start := { operator := none, form := none }
  fields := [
    { name := "operator"
      required := true
      isSet := fun draft => draft.operator.isSome
      read := fun level document => do
        let operator ← Operator.decoder level document
        return fun draft => { draft with operator := some operator } },
    { name := "transform"
      required := true
      isSet := fun draft => draft.form.isSome
      read := fun level document => do
        let form ← Form.decoder level document
        return fun draft => { draft with form := some form } }]
  finish := fun draft => do
    let operator ← Decoder.needed "operator" draft.operator
    let form ← Decoder.needed "transform" draft.form
    return { operator, form }

def decoder : Decoder Comparator := shape.decoder

def toJson (comparator : Comparator) : Json :=
  .object [("operator", comparator.operator.toJson), ("transform", comparator.form.toJson)]

end Comparator

end Scrutineer
