import Scrutineer.Json.Document
import Scrutineer.Json.Printer
import Scrutineer.Text.Quoted

/-! Why a document does not have the shape that a reader wants. Each cause carries
what the reader needs to know; the wording is in one place. -/

namespace Scrutineer

inductive Found where
  | null
  | truth (value : Bool)
  | number (value : Number)
  | text (content : String)
  | sequence
  | map

namespace Found

def numberKind : Number → String
  | .whole .. => "integer"
  | .real .. => "floating point"

def describe : Found → String
  | .null => "null"
  | .truth value => "boolean `" ++ (if value then "true" else "false") ++ "`"
  | .number value => numberKind value ++ " `" ++ String.ofList value.text ++ "`"
  | .text content => "string " ++ Text.quoted content
  | .sequence => "sequence"
  | .map => "map"

end Found

/-- The first fault of a document, for a reader that goes through it in order. -/
inductive DecodeError where
  | wrongType (found : Found) (wanted : String)
  | wrongValue (found : Found) (wanted : String)
  | tooShort (length : Nat) (wanted : String)
  | tooLong (length : Nat)
  | missingField (name : String)
  | duplicateField (name : String)
  | unknownName (name : String) (known : List String)
  | noName
  | notScalar
  | badIdentifier (value : Json)
  /-- A number, a text or a depth of nesting that cannot be kept. -/
  | unusable

namespace DecodeError

def oneOf (names : List String) : String :=
  "one of " ++ String.intercalate ", " (names.map fun name => "`" ++ name ++ "`")

def message : DecodeError → String
  | .wrongType found wanted => "invalid type: " ++ found.describe ++ ", expected " ++ wanted
  | .wrongValue found wanted => "invalid value: " ++ found.describe ++ ", expected " ++ wanted
  | .tooShort length wanted =>
      "invalid length " ++ toString length ++ ", expected " ++ wanted
  | .tooLong _ => "trailing characters"
  | .missingField name => "missing field `" ++ name ++ "`"
  | .duplicateField name => "duplicate field `" ++ name ++ "`"
  | .unknownName name known =>
      "unknown variant `" ++ name ++ "`, expected " ++ oneOf known
  | .noName => "expected value"
  | .notScalar => "data did not match any variant of untagged enum ScalarValue"
  | .badIdentifier value => "rule id must be a string or number, got " ++ value.compact
  | .unusable => "unusable value"

/-- The wording of a fault in a value that was not read from a text of its own:
it has no further characters, but an array in it can have further elements. -/
def messageInValue : DecodeError → String
  | .tooLong length =>
      "invalid length " ++ toString length ++ ", expected fewer elements in array"
  | other => other.message

end DecodeError

inductive Unreadable where
  | notJson
  | wrongShape (fault : DecodeError)

/-- The wording; that of a text which is no JSON leaves out where it ceases to be. -/
def Unreadable.message : Unreadable → String
  | .notJson => "the text is not JSON"
  | .wrongShape fault => fault.message

end Scrutineer
