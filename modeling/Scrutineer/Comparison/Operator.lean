import Scrutineer.Json.Decode
import Scrutineer.Text.Blank

/-! The comparison operators. An operator asks how two values are ordered. Where they
have no order, as with the value that is not a number, they are only different. -/

namespace Scrutineer

inductive Operator where
  | less
  | lessOrEqual
  | greater
  | greaterOrEqual
  | equal
  | notEqual
deriving DecidableEq

namespace Operator

def all : List Operator := [.less, .lessOrEqual, .greater, .greaterOrEqual, .equal, .notEqual]

def tag : Operator → String
  | .less => "lt"
  | .lessOrEqual => "lte"
  | .greater => "gt"
  | .greaterOrEqual => "gte"
  | .equal => "eq"
  | .notEqual => "neq"

def symbol : Operator → String
  | .less => "<"
  | .lessOrEqual => "≤"
  | .greater => ">"
  | .greaterOrEqual => "≥"
  | .equal => "="
  | .notEqual => "!="

def ofTag? (text : String) : Option Operator :=
  all.find? (·.tag == Text.tagKey text)

/-- Whether the operator holds between two values in a given order. Without an
order only `notEqual` holds. -/
def holds (operator : Operator) (order : Option Ordering) : Bool :=
  match operator with
  | .less => order == some .lt
  | .lessOrEqual => order == some .lt || order == some .eq
  | .greater => order == some .gt
  | .greaterOrEqual => order == some .gt || order == some .eq
  | .equal => order == some .eq
  | .notEqual => order != some .eq

def holdsOfDoubles (operator : Operator) (left right : Double) : Bool :=
  operator.holds (left.order? right)

def holdsOfInts (operator : Operator) (left right : Int) : Bool :=
  operator.holds (some (compare left right))

def tagged : List (String × Operator) :=
  all.map fun operator => (operator.tag, operator)

def decoder : Decoder Operator := Decoder.named tagged

def ofJson : Json → Except DecodeError Operator := Decoder.namedInValue tagged

def toJson (operator : Operator) : Json := .text operator.tag

end Operator

end Scrutineer
