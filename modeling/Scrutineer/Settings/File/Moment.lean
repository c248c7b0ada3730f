import Scrutineer.Numeric.Int64

/-! Dates and times in settings files. A date, a time of day, or both with a mark
between them, and then perhaps with the distance from universal time. They are kept as
texts in one spelling. -/

namespace Scrutineer
namespace Moment

def digits? (count : Nat) (characters : List Char) : Option (Nat × List Char) :=
  if (characters.take count).length = count then
    (Count.digitsValue? (characters.take count)).map fun value =>
      (value, characters.drop count)
  else none

def padded (width value : Nat) : List Char :=
  let digits := Nat.toDigits 10 value
  List.replicate (width - digits.length) '0' ++ digits

def behind? (wanted : Char) : List Char → Option (List Char)
  | first :: rest => if first == wanted then some rest else none
  | [] => none

def daysOf (year month : Nat) : Nat :=
  let isLeap := year % 4 == 0 && (year % 100 != 0 || year % 400 == 0)
  if month = 2 then (if isLeap then 29 else 28)
  else if month = 4 ∨ month = 6 ∨ month = 9 ∨ month = 11 then 30
  else 31

def date? (characters : List Char) : Option (List Char × List Char) := do
  let (year, rest) ← digits? 4 characters
  let (month, rest) ← digits? 2 (← behind? '-' rest)
  let (day, rest) ← digits? 2 (← behind? '-' rest)
  if 1 ≤ month ∧ month ≤ 12 ∧ 1 ≤ day ∧ day ≤ daysOf year month then
    return (padded 4 year ++ '-' :: padded 2 month ++ '-' :: padded 2 day, rest)
  else none

/-- A fraction of a second: nine digits at most are kept, and no zeros at the
end but for a single one. -/
def fraction? (characters : List Char) : Option (List Char × List Char) :=
  let digits := characters.takeWhile Char.isDigit
  let kept := ((digits.take 9).reverse.dropWhile (· == '0')).reverse
  if digits.isEmpty then none
  else some ('.' :: (if kept.isEmpty then ['0'] else kept), characters.dropWhile Char.isDigit)

def seconds? : List Char → Option (List Char × List Char)
  | ':' :: characters => do
      let (second, rest) ← digits? 2 characters
      if 60 < second then none
      else
        match rest with
        | '.' :: rest => do
            let (fraction, rest) ← fraction? rest
            return (':' :: padded 2 second ++ fraction, rest)
        | rest => return (':' :: padded 2 second, rest)
  | rest => some ([], rest)

def time? (characters : List Char) : Option (List Char × List Char) := do
  let (hour, rest) ← digits? 2 characters
  let (minute, rest) ← digits? 2 (← behind? ':' rest)
  let (seconds, rest) ← seconds? rest
  if hour ≤ 23 ∧ minute ≤ 59 then
    return (padded 2 hour ++ ':' :: padded 2 minute ++ seconds, rest)
  else none

def offset? : List Char → Option (List Char)
  | [] => some []
  | ['Z'] => some ['Z']
  | ['z'] => some ['Z']
  | sign :: characters => do
      let (hours, rest) ← digits? 2 characters
      let (minutes, rest) ← digits? 2 (← behind? ':' rest)
      if (sign == '+' || sign == '-') && hours ≤ 23 && minutes ≤ 59 && rest.isEmpty then
        return (if hours = 0 ∧ minutes = 0 then '+' else sign) ::
          (padded 2 hours ++ ':' :: padded 2 minutes)
      else none

def ofCharacters? (characters : List Char) : Option String :=
  match date? characters with
  | some (date, []) => some (String.ofList date)
  | some (date, mark :: rest) => do
      let (time, rest) ← time? rest
      let offset ← offset? rest
      if mark == 'T' || mark == 't' || mark == ' ' then
        return String.ofList (date ++ 'T' :: time ++ offset)
      else none
  | none =>
      match time? characters with
      | some (time, []) => some (String.ofList time)
      | _ => none

end Moment
end Scrutineer
