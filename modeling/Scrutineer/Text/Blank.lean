/-! Tags, strategy names and numbers are read from what is left of a text once the
blanks at both ends are gone. Case folding touches the letters A to Z only, so that a
tag is recognised by its plain spelling and nothing else. -/

namespace Scrutineer
namespace Text

/-- The twenty-five characters that separate words: the control blanks, the
space, and the wider spaces and line separators of other scripts. -/
def isBlank (character : Char) : Bool :=
  let code := character.toNat
  (9 ≤ code && code ≤ 13) || code == 0x20 || code == 0x85 || code == 0xA0 ||
    code == 0x1680 || (0x2000 ≤ code && code ≤ 0x200A) || code == 0x2028 ||
    code == 0x2029 || code == 0x202F || code == 0x205F || code == 0x3000

def trimmed (characters : List Char) : List Char :=
  ((characters.dropWhile isBlank).reverse.dropWhile isBlank).reverse

def trim (text : String) : String :=
  String.ofList (trimmed text.toList)

def foldCase (text : String) : String :=
  String.ofList (text.toList.map Char.toLower)

def tagKey (text : String) : String :=
  foldCase (trim text)

end Text
end Scrutineer
