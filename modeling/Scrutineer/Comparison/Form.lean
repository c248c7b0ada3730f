import Scrutineer.Json.Decode
import Scrutineer.Scalar

/-! The forms in which property values are compared. A scalar is brought into one form
before it is compared: it is read as a double or as a count, or taken as the text that
messages show. Not every scalar has every form. -/

namespace Scrutineer

inductive Form where
  | double
  | count
  | text
deriving DecidableEq

inductive Formed where
  | double (value : Double)
  | count (value : Int64)
  | text (content : String)
deriving DecidableEq

namespace Form

def all : List Form := [.double, .count, .text]

def shown : Form → String
  | .double => "float"
  | .count => "int"
  | .text => "string"

def tag : Form → String
  | .double => "float"
  | .count => "int"
  | .text => "text"

def of? (form : Form) (value : Scalar) : Option Formed :=
  match form with
  | .double => value.asDouble?.map .double
  | .count => value.asCount?.map .count
  | .text => some (.text value.shown)

def tagged : List (String × Form) :=
  all.map fun form => (form.tag, form)

def decoder : Decoder Form := Decoder.named tagged

def ofJson : Json → Except DecodeError Form := Decoder.namedInValue tagged

def toJson (form : Form) : Json := .text form.tag

end Form

namespace Formed

/-- The order of two values of one form. Texts are ordered character by
character. -/
def order? : Formed → Formed → Option Ordering
  | .double left, .double right => left.order? right
  | .count left, .count right => some (compare left.toInt right.toInt)
  | .text left, .text right => some (compare left right)
  | _, _ => none

end Formed

end Scrutineer
