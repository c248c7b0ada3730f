import Scrutineer.Text.Blank
import Scrutineer.Text.Split

/-! The name of a part is a base name, an underscore and an instance suffix, as in
`fuelTank_4301`. Rules refer to parts by base names, which they may write with stray
characters; what remains of them are the letters A to Z in both cases, the ten digits,
the point and the hyphen. -/

namespace Scrutineer
namespace Name

/-- The characters that base names and fragments of names in rules keep. -/
def isKept (character : Char) : Bool :=
  character.isAlphanum || character == '.' || character == '-'

def sanitize (text : String) : String :=
  String.ofList (text.toList.filter isKept)

def withoutBlanks (text : String) : String :=
  String.ofList (text.toList.filter fun character => !Text.isBlank character)

/-- The names in a list with commas between them; empty ones are left out. -/
def splitList (text : String) : List String :=
  (((text.toList.splitOn ',').map fun item => withoutBlanks (String.ofList item)).map
    sanitize).filter (· ≠ "")

/-- The base name of a part: what stands before the last underscore, when
there is something on both sides of it. -/
def base? (name : String) : Option String :=
  match Text.splitAtLast? '_' name.toList with
  | some (base, suffix) =>
      if base.isEmpty || suffix.isEmpty then none else some (String.ofList base)
  | none => none

/-- Whether a part's name is the given base name, an underscore and a suffix.
The suffix may hold further underscores. -/
def matchesBase (name base : String) : Bool :=
  base ≠ "" &&
    match Text.dropLead? base.toList name.toList with
    | some ('_' :: _ :: _) => true
    | _ => false

end Name
end Scrutineer
