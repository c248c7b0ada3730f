import Scrutineer.Text.Blank
import Scrutineer.Numeric.Layout

/-! Craft files store the same property now as a number and now as a text. A scalar
can therefore be read as a double or as a count, where a text is trimmed and read by
the grammar of numbers; a truth value never reads as a number. -/

namespace Scrutineer

inductive Scalar where
  | number (value : Double)
  | truth (value : Bool)
  | text (content : String)
deriving DecidableEq

namespace Scalar

/-- A whole number as a scalar: the nearest double. -/
def ofCount (count : Int64) : Scalar :=
  .number (.ofInt count.toInt)

def asDouble? : Scalar → Option Double
  | .number value => some value
  | .truth _ => none
  | .text content => Double.ofText? (Text.trim content)

def countOfDouble? (value : Double) : Option Int64 :=
  if value.isFinite then some (Count.ofDouble value) else none

/-- The count that a scalar denotes. A text may be a whole number, or else a
finite decimal number that is cut towards zero. -/
def asCount? : Scalar → Option Int64
  | .number value => countOfDouble? value
  | .truth _ => none
  | .text content =>
      match Count.ofText? (Text.trim content) with
      | some count => some count
      | none => (Double.ofText? (Text.trim content)).bind countOfDouble?

def shown : Scalar → String
  | .number value => value.message
  | .truth value => if value then "true" else "false"
  | .text content => content

end Scalar
end Scrutineer
