/-! Lines of settings files. A line ends with a line feed, which may have a carriage
return in front. Blanks and a comment behind a hash sign may stand at its end. -/

namespace Scrutineer
namespace SettingsFile

def isSpace (character : Char) : Bool :=
  character == ' ' || character == '\t'

def isPlain (character : Char) : Bool :=
  character == '\t' || (0x20 ≤ character.toNat && character.toNat != 0x7F)

def skipSpace (characters : List Char) : List Char :=
  characters.dropWhile isSpace

def lineBreak? : List Char → Option (List Char)
  | [] => some []
  | '\n' :: after => some after
  | '\r' :: '\n' :: after => some after
  | _ => none

def lineEnd? (characters : List Char) : Option (List Char) :=
  match skipSpace characters with
  | '#' :: comment => lineBreak? (comment.dropWhile isPlain)
  | rest => lineBreak? rest

/-- What follows the given number of line breaks at most, with the blanks and
comments around them. -/
def skipLines : Nat → List Char → List Char
  | 0, characters => skipSpace characters
  | most + 1, characters =>
      match skipSpace characters with
      | '\n' :: rest => skipLines most rest
      | '\r' :: '\n' :: rest => skipLines most rest
      | '#' :: comment => skipLines most (comment.dropWhile isPlain)
      | rest => rest

def skipGap (characters : List Char) : List Char :=
  skipLines characters.length characters

end SettingsFile
end Scrutineer
