import Scrutineer.Json.Token

/-! Writing JSON values. A value is first a list of tokens; its text is the text of
the tokens without gaps. A second form spreads arrays and objects over lines with two
blanks per level, for readers of the command line. -/

namespace Scrutineer
namespace Json

mutual

def tokens : Json → List Token
  | .null => [.null]
  | .truth value => [.truth value]
  | .number value => [.number (some value)]
  | .text content => [.text (some content)]
  | .array items => .openArray :: (itemTokens items ++ [.closeArray])
  | .object members => .openObject :: (memberTokens members ++ [.closeObject])

def itemTokens : List Json → List Token
  | [] => []
  | [item] => item.tokens
  | item :: next :: rest => item.tokens ++ .comma :: itemTokens (next :: rest)

def memberTokens : List (String × Json) → List Token
  | [] => []
  | [(key, value)] => .text (some key) :: .colon :: value.tokens
  | (key, value) :: next :: rest =>
      .text (some key) :: .colon :: (value.tokens ++ .comma :: memberTokens (next :: rest))

end

def compact (value : Json) : String :=
  String.ofList (value.tokens.flatMap Token.written)

def margin (level : Nat) : List Char :=
  List.replicate (2 * level) ' '

mutual

def spread (level : Nat) : Json → List Char
  | .array [] => ['[', ']']
  | .array (item :: rest) =>
      '[' :: (spreadItems (level + 1) (item :: rest) ++ '\n' :: margin level ++ [']'])
  | .object [] => ['\x7b', '\x7d']
  | .object (member :: rest) =>
      '\x7b' :: (spreadMembers (level + 1) (member :: rest) ++ '\n' :: margin level ++ ['\x7d'])
  | .null => Token.written .null
  | .truth value => Token.written (.truth value)
  | .number value => Token.written (.number (some value))
  | .text content => Token.written (.text (some content))

def spreadItems (level : Nat) : List Json → List Char
  | [] => []
  | [item] => '\n' :: margin level ++ spread level item
  | item :: next :: rest =>
      '\n' :: margin level ++ spread level item ++ ',' :: spreadItems level (next :: rest)

def spreadMembers (level : Nat) : List (String × Json) → List Char
  | [] => []
  | [(key, value)] =>
      '\n' :: margin level ++ Token.written (.text (some key)) ++ ':' :: ' ' :: spread level value
  | (key, value) :: next :: rest =>
      '\n' :: margin level ++ Token.written (.text (some key)) ++ ':' :: ' ' :: spread level value ++
        ',' :: spreadMembers level (next :: rest)

end

def pretty (value : Json) : String :=
  String.ofList (spread 0 value)

end Json
end Scrutineer
