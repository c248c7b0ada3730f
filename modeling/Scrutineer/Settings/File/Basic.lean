import Scrutineer.Settings.File.Value

/-! Settings files. A file holds settings, `name = value`, each on a line of its own,
below headers in square brackets that name the table; a header in double brackets
opens one more table of a list. A hash sign starts a comment. -/

namespace Scrutineer
namespace SettingsFile

/-- What has been read: the table that is open, and all tables. -/
structure Progress where
  current : List String
  entries : TableEntries

def readHeader (progress : Progress) (characters : List Char) :
    Option (Progress × List Char) :=
  match characters with
  | '[' :: inner =>
      match names? inner.length inner with
      | some (names, ']' :: ']' :: after) => do
          let entries ← progress.entries.appendTable names
          return ({ current := names, entries }, ← lineEnd? after)
      | _ => none
  | inner =>
      match names? inner.length inner with
      | some (names, ']' :: after) => do
          let entries ← progress.entries.openTable names
          return ({ current := names, entries }, ← lineEnd? after)
      | _ => none

def readSetting (progress : Progress) (characters : List Char) :
    Option (Progress × List Char) :=
  match names? characters.length characters with
  | some (names, '=' :: after) => do
      let (value, after) ← value? (after.length + 1) (skipSpace after)
      let entries ←
        TableEntries.within (TableEntries.add value names) progress.current progress.entries
      return ({ progress with entries }, ← lineEnd? after)
  | _ => none

def readEntry (progress : Progress) (characters : List Char) :
    Option (Progress × List Char) :=
  match lineEnd? characters with
  | some after => some (progress, after)
  | none =>
      match skipSpace characters with
      | '[' :: rest => readHeader progress rest
      | rest => readSetting progress rest

/-- Reads entries to the end of the file, at most the given number of them. -/
def readEntries : Nat → Progress → List Char → Option Progress
  | _, progress, [] => some progress
  | 0, _, _ => none
  | most + 1, progress, characters =>
      match readEntry progress characters with
      | some (next, after) => readEntries most next after
      | none => none

def read? (text : String) : Option (List (String × Setting)) :=
  let characters :=
    match text.toList with
    | '\ufeff' :: rest => rest
    | all => all
  (readEntries characters.length { current := [], entries := [] } characters).map fun progress =>
    TableEntry.settings progress.entries

end SettingsFile
end Scrutineer
