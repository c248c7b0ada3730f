import Scrutineer.Text.Hidden

/-! Texts in double quotes, as complaints about JSON input show them. The quote, the
backslash and five controls have an escape of their own; other hidden characters are
written by their code in hexadecimal digits. -/

namespace Scrutineer
namespace Text

def quotedCharacter (character : Char) : List Char :=
  match character with
  | '"' => ['\\', '"']
  | '\\' => ['\\', '\\']
  | '\n' => ['\\', 'n']
  | '\r' => ['\\', 'r']
  | '\t' => ['\\', 't']
  | '\x00' => ['\\', '0']
  | _ =>
      if isHidden character then
        ['\\', 'u', '\x7b'] ++ Nat.toDigits 16 character.toNat ++ ['\x7d']
      else [character]

def quoted (text : String) : String :=
  String.ofList ('"' :: text.toList.flatMap quotedCharacter ++ ['"'])

end Text
end Scrutineer
