import Scrutineer.Json.Token
import Scrutineer.Settings.File.Line

/-! Quoted texts in settings files. A text stands between single quotes as it is, or
between double quotes with escapes. Between three quotes it may go over several lines;
a line break right behind the opening ones does not belong to it. -/

namespace Scrutineer
namespace SettingsFile

def hexValue? (digits : List Char) : Option Nat :=
  digits.foldlM (fun value digit => do return value * 16 + (← Token.hexDigit? digit)) 0

def characterOf? (digits : List Char) : Option Char :=
  (hexValue? digits).bind fun code =>
    if valid : code.isValidChar then some (Char.ofNatAux code valid) else none

def escaped? (mark : Char) : Option Char :=
  if mark == 'e' then some '\x1b' else if mark == '/' then none else Token.escaped? mark

def literalText (earlier : List Char) : List Char → Option (String × List Char)
  | [] => none
  | '\'' :: rest => some (String.ofList earlier.reverse, rest)
  | first :: rest => if isPlain first then literalText (first :: earlier) rest else none

def basicText (earlier : List Char) : List Char → Option (String × List Char)
  | [] => none
  | '"' :: rest => some (String.ofList earlier.reverse, rest)
  | '\\' :: 'x' :: a :: b :: rest =>
      match characterOf? [a, b] with
      | some character => basicText (character :: earlier) rest
      | none => none
  | '\\' :: 'u' :: a :: b :: c :: d :: rest =>
      match characterOf? [a, b, c, d] with
      | some character => basicText (character :: earlier) rest
      | none => none
  | '\\' :: 'U' :: a :: b :: c :: d :: e :: f :: g :: h :: rest =>
      match characterOf? [a, b, c, d, e, f, g, h] with
      | some character => basicText (character :: earlier) rest
      | none => none
  | '\\' :: mark :: rest =>
      match escaped? mark with
      | some character => basicText (character :: earlier) rest
      | none => none
  | first :: rest =>
      if isPlain first && first != '\\' then basicText (first :: earlier) rest else none

/-- A text over several lines between three single quotes, and what follows it.
Up to two more quotes in front of the closing ones belong to the text. -/
def literalLines (earlier : List Char) : List Char → Option (String × List Char)
  | [] => none
  | '\'' :: '\'' :: '\'' :: rest =>
      match rest with
      | '\'' :: '\'' :: after => some (String.ofList ('\'' :: '\'' :: earlier).reverse, after)
      | '\'' :: after => some (String.ofList ('\'' :: earlier).reverse, after)
      | after => some (String.ofList earlier.reverse, after)
  | '\r' :: '\n' :: rest => literalLines ('\n' :: '\r' :: earlier) rest
  | first :: rest =>
      if isPlain first || first == '\n' then literalLines (first :: earlier) rest else none

/-- Whether a line break is being passed over: a backslash at the end of a line
takes away all blanks and line breaks up to the next character. -/
inductive Joining where
  | none
  | beforeBreak
  | behindBreak
deriving DecidableEq

def basicLines (joining : Joining) (earlier : List Char) :
    List Char → Option (String × List Char)
  | [] => none
  | '"' :: '"' :: '"' :: rest =>
      if joining = .beforeBreak then none
      else
        match rest with
        | '"' :: '"' :: after => some (String.ofList ('"' :: '"' :: earlier).reverse, after)
        | '"' :: after => some (String.ofList ('"' :: earlier).reverse, after)
        | after => some (String.ofList earlier.reverse, after)
  | '\\' :: 'x' :: a :: b :: rest =>
      match characterOf? [a, b] with
      | some character => basicLines .none (character :: earlier) rest
      | none => none
  | '\\' :: 'u' :: a :: b :: c :: d :: rest =>
      match characterOf? [a, b, c, d] with
      | some character => basicLines .none (character :: earlier) rest
      | none => none
  | '\\' :: 'U' :: a :: b :: c :: d :: e :: f :: g :: h :: rest =>
      match characterOf? [a, b, c, d, e, f, g, h] with
      | some character => basicLines .none (character :: earlier) rest
      | none => none
  | '\r' :: '\n' :: rest =>
      if joining = .none then basicLines .none ('\n' :: '\r' :: earlier) rest
      else basicLines .behindBreak earlier rest
  | '\n' :: rest =>
      if joining = .none then basicLines .none ('\n' :: earlier) rest
      else basicLines .behindBreak earlier rest
  | '\\' :: mark :: rest =>
      if joining = .beforeBreak then none
      else
        match escaped? mark with
        | some character => basicLines .none (character :: earlier) rest
        | none =>
            if isSpace mark then basicLines .beforeBreak earlier rest
            else if mark == '\n' then basicLines .behindBreak earlier rest
            else if mark == '\r' && rest.head? = some '\n' then
              basicLines .beforeBreak earlier rest
            else none
  | first :: rest =>
      if joining != .none && isSpace first then basicLines joining earlier rest
      else if joining = .beforeBreak then none
      else if isPlain first && first != '\\' then basicLines .none (first :: earlier) rest
      else none

def dropLineBreak : List Char → List Char
  | '\n' :: rest => rest
  | '\r' :: '\n' :: rest => rest
  | characters => characters

def text? : List Char → Option (String × List Char)
  | '"' :: '"' :: '"' :: rest => basicLines .none [] (dropLineBreak rest)
  | '\'' :: '\'' :: '\'' :: rest => literalLines [] (dropLineBreak rest)
  | '"' :: rest => basicText [] rest
  | '\'' :: rest => literalText [] rest
  | _ => none

end SettingsFile
end Scrutineer
