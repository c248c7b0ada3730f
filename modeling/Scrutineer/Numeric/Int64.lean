import Scrutineer.Numeric.Double

/-! Counts of sixty-four bits: reading them from text and from doubles. A count in a
rule or a property is a signed word. A text must denote a number within range; a
double is cut towards zero and stops at the two ends. -/

namespace Scrutineer
namespace Count

def least : Int := Int64.minValue.toInt

def greatest : Int := Int64.maxValue.toInt

def digitsValue? (characters : List Char) : Option Nat :=
  if characters.isEmpty || !characters.all Char.isDigit then none
  else some (characters.foldl (fun value digit => value * 10 + (digit.toNat - 48)) 0)

def wholeNumber? : List Char → Option Int
  | '-' :: digits => (digitsValue? digits).map fun value => -(value : Int)
  | '+' :: digits => (digitsValue? digits).map fun value => (value : Int)
  | digits => (digitsValue? digits).map fun value => (value : Int)

def ofInt? (value : Int) : Option Int64 :=
  if least ≤ value ∧ value ≤ greatest then some (Int64.ofInt value) else none

def clamp (value : Int) : Int64 :=
  Int64.ofInt (max least (min value greatest))

def ofText? (text : String) : Option Int64 :=
  (wholeNumber? text.toList).bind ofInt?

/-- A double cut towards zero; what is out of range goes to the nearer end. -/
def ofDouble (value : Double) : Int64 :=
  clamp value.wholePart

end Count
end Scrutineer
