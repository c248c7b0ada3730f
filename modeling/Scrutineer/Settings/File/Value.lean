import Scrutineer.Settings.File.Moment
import Scrutineer.Settings.File.Number
import Scrutineer.Settings.File.Table
import Scrutineer.Settings.File.Text
import Scrutineer.Settings.Path

/-! Names and values in settings files. A value is a quoted text, a number, a truth
value, a date or time, a list in square brackets or a table in curly ones. Lists and
tables may go over several lines. -/

namespace Scrutineer
namespace SettingsFile

/-! ### Names -/

def name? : List Char → Option (String × List Char)
  | '"' :: rest => basicText [] rest
  | '\'' :: rest => literalText [] rest
  | characters =>
      let known := characters.takeWhile SettingPath.isNameCharacter
      if known.isEmpty then none
      else some (String.ofList known, characters.dropWhile SettingPath.isNameCharacter)

def names? : Nat → List Char → Option (List String × List Char)
  | 0, _ => none
  | most + 1, characters =>
      match name? (skipSpace characters) with
      | none => none
      | some (first, rest) =>
          match skipSpace rest with
          | '.' :: more => (names? most more).map fun (names, after) => (first :: names, after)
          | after => some ([first], after)

/-! ### Words -/

def isWordCharacter (character : Char) : Bool :=
  character.isAlphanum || character == '+' || character == '-' || character == '_' ||
    character == '.' || character == ':'

def wordSetting? (word : List Char) : Option Setting :=
  if word = "true".toList then some (.truth true)
  else if word = "false".toList then some (.truth false)
  else
    match whole? word, real? word, Moment.ofCharacters? word with
    | some value, _, _ => some (.whole value)
    | none, some value, _ => some (.real value)
    | none, none, some moment => some (.text moment)
    | none, none, none => none

/-- An unquoted word, and what follows it. A date and a time may have a blank
between them. -/
def word (characters : List Char) : List Char × List Char :=
  let first := characters.takeWhile isWordCharacter
  let rest := characters.dropWhile isWordCharacter
  match Moment.date? first, rest with
  | some (_, []), ' ' :: digit :: more =>
      if digit.isDigit then
        (first ++ ' ' :: (digit :: more).takeWhile isWordCharacter,
          (digit :: more).dropWhile isWordCharacter)
      else (first, rest)
  | _, _ => (first, rest)

/-! ### Values -/

mutual

/-- A value, and what follows it. The bound is for the values inside. -/
def value? : Nat → List Char → Option (Setting × List Char)
  | 0, _ => none
  | most + 1, characters =>
      match characters with
      | '[' :: rest => items? most [] (skipGap rest)
      | '\x7b' :: rest => members? most [] (skipGap rest)
      | first :: _ =>
          if first == '"' || first == '\'' then
            (text? characters).map fun (content, after) => (.text content, after)
          else
            let (known, after) := word characters
            (wordSetting? known).map fun setting => (setting, after)
      | [] => none

def items? : Nat → List Setting → List Char → Option (Setting × List Char)
  | 0, _, _ => none
  | most + 1, earlier, characters =>
      match characters with
      | ']' :: rest => some (.list earlier.reverse, rest)
      | _ =>
          match value? most characters with
          | none => none
          | some (item, after) =>
              match skipGap after with
              | ',' :: rest => items? most (item :: earlier) (skipGap rest)
              | ']' :: rest => some (.list (item :: earlier).reverse, rest)
              | _ => none

def members? : Nat → TableEntries → List Char → Option (Setting × List Char)
  | 0, _, _ => none
  | most + 1, earlier, characters =>
      match characters with
      | '\x7d' :: rest => some (.group (TableEntry.settings earlier), rest)
      | _ =>
          match names? characters.length characters with
          | some (names, '=' :: behind) =>
              match value? most (skipSpace behind) with
              | none => none
              | some (value, after) =>
                  match TableEntries.add value names earlier, skipGap after with
                  | some entries, ',' :: rest => members? most entries (skipGap rest)
                  | some entries, '\x7d' :: rest =>
                      some (.group (TableEntry.settings entries), rest)
                  | _, _ => none
          | _ => none

end

end SettingsFile
end Scrutineer
