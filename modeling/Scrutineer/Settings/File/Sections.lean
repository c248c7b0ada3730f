import Scrutineer.Settings.File.Text
import Scrutineer.Settings.Tree
import Scrutineer.Text.Blank

/-! Settings files with sections of plain texts. A line sets a name to a text behind
an equals sign or a colon. A name in square brackets opens a section; of sections with
one name the last remains. -/

namespace Scrutineer
namespace SectionsFile

structure Progress where
  current : Option String
  entries : List (String × Setting)

/-! ### Texts -/

def isLineEnd (character : Char) : Bool :=
  character == '\n' || character == '\r'

/-- What a backslash and a mark stand for: a line break is taken away, and a mark
without a meaning stands for itself. -/
def escaped : Char → List Char
  | '0' => ['\x00']
  | 'a' => ['\x07']
  | 'b' => ['\x08']
  | 't' => ['\t']
  | 'r' => ['\r']
  | 'n' => ['\n']
  | '\n' => []
  | mark => [mark]

def readUntil (isEnding : Char → Bool) (earlier : List Char) :
    List Char → Option (List Char × List Char)
  | [] => some (earlier.reverse, [])
  | '\\' :: 'x' :: a :: b :: c :: d :: rest =>
      match SettingsFile.characterOf? [a, b, c, d] with
      | some character => readUntil isEnding (character :: earlier) rest
      | none => none
  | '\\' :: mark :: rest => readUntil isEnding (escaped mark ++ earlier) rest
  | first :: rest =>
      if isEnding first then some (earlier.reverse, first :: rest)
      else if first == '\\' then none
      else readUntil isEnding (first :: earlier) rest

def value? (characters : List Char) : Option (String × List Char) :=
  match characters.dropWhile fun character => Text.isBlank character && !isLineEnd character with
  | [] => some ("", [])
  | first :: rest =>
      if first == '"' || first == '\'' then
        match readUntil (· == first) [] rest with
        | some (quoted, _ :: behind) =>
            (readUntil isLineEnd [] behind).map fun (plain, after) =>
              (String.ofList (quoted ++ Text.trimmed plain), after)
        | _ => none
      else
        (readUntil isLineEnd [] (first :: rest)).map fun (plain, after) =>
          (String.ofList (Text.trimmed plain), after)

/-! ### Entries -/

def Progress.openSection (progress : Progress) (name : String) : Progress :=
  { current := some name, entries := Entries.insert name (.group []) progress.entries }

def Progress.set (progress : Progress) (name content : String) : Progress :=
  match progress.current with
  | none => { progress with entries := Entries.insert name (.text content) progress.entries }
  | some opened =>
      let held := ((Entries.find? opened progress.entries).getD .nothing).entries
      { progress with
        entries :=
          Entries.insert opened (.group (Entries.insert name (.text content) held))
            progress.entries }

def readEntry (progress : Progress) : List Char → Option (Progress × List Char)
  | '[' :: rest =>
      match readUntil (· == ']') [] rest with
      | some (name, _ :: after) =>
          some (progress.openSection (String.ofList (Text.trimmed name)), after)
      | _ => none
  | characters =>
      if characters.head? = some '#' || characters.head? = some ';' then
        some (progress, characters.dropWhile (· != '\n'))
      else
        match readUntil (fun character => character == '=' || character == ':') [] characters with
        | some (name, _ :: behind) =>
            if (Text.trimmed name).isEmpty then none
            else
              (value? behind).map fun (content, after) =>
                (progress.set (String.ofList (Text.trimmed name)) content, after)
        | _ => none

def readEntries : Nat → Progress → List Char → Option Progress
  | most, progress, characters =>
      match most, characters.dropWhile Text.isBlank with
      | _, [] => some progress
      | 0, _ => none
      | fewer + 1, rest =>
          match readEntry progress rest with
          | some (next, after) => readEntries fewer next after
          | none => none

def read? (text : String) : Option (List (String × Setting)) :=
  (readEntries text.toList.length { current := none, entries := [] } text.toList).map
    Progress.entries

end SectionsFile
end Scrutineer
