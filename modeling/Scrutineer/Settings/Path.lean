import Scrutineer.Settings.Tree

/-! A path starts with the name of a setting and leads on by names within groups and
by positions within lists. Positions count from zero, or from the end when they are
negative. What stands in the way of a path gives way to it, and lists grow until they
have the position. -/

namespace Scrutineer

inductive SettingStep where
  | name (name : String)
  | item (position : Int)
deriving DecidableEq

abbrev SettingPath := List SettingStep

namespace SettingPath

def isNameCharacter (character : Char) : Bool :=
  character.isAlphanum || character == '_' || character == '-'

def isSpace (character : Char) : Bool :=
  character == ' ' || character == '\t'

def position? (characters : List Char) : Option (Int × List Char) :=
  let trimmed := characters.dropWhile isSpace
  let (negative, unsigned) :=
    match trimmed with
    | '-' :: rest => (true, rest)
    | rest => (false, rest)
  match Count.digitsValue? (unsigned.takeWhile Char.isDigit),
      (unsigned.dropWhile Char.isDigit).dropWhile isSpace with
  | some value, ']' :: rest =>
      let position : Int := if negative then -(value : Int) else value
      if Count.least ≤ position ∧ position ≤ Count.greatest then some (position, rest) else none
  | _, _ => none

def steps? : Nat → List Char → Option SettingPath
  | _, [] => some []
  | 0, _ => none
  | most + 1, '.' :: rest =>
      let known := rest.takeWhile isNameCharacter
      if known.isEmpty then none
      else
        (steps? most (rest.dropWhile isNameCharacter)).map (.name (String.ofList known) :: ·)
  | most + 1, '[' :: rest =>
      match position? rest with
      | some (position, after) => (steps? most after).map (.item position :: ·)
      | none => none
  | _, _ => none

/-- The path that a name spells. A name that spells none is a step of its own. -/
def ofName (name : String) : SettingPath :=
  let known := name.toList.takeWhile isNameCharacter
  let rest := name.toList.dropWhile isNameCharacter
  match known.isEmpty, steps? rest.length rest with
  | false, some steps => .name (String.ofList known) :: steps
  | _, _ => [.name name]

end SettingPath

namespace Setting

def modify (change : Setting → Setting) : SettingPath → Setting → Setting
  | [], setting => change setting
  | .name name :: rest, setting =>
      let held := (Entries.find? name setting.entries).getD .nothing
      .group (Entries.insert name (modify change rest held) setting.entries)
  | .item position :: rest, setting =>
      let items := setting.items
      if 0 ≤ position then
        let filled :=
          items ++ List.replicate (position.toNat + 1 - items.length) Setting.nothing
        .list (filled.modify position.toNat (modify change rest))
      else if position.natAbs ≤ items.length then
        .list (items.modify (items.length - position.natAbs) (modify change rest))
      else
        .list (modify change rest .nothing ::
          (List.replicate (position.natAbs - items.length - 1) .nothing ++ items))

def assign (tree : Setting) (name : String) (value : Setting) : Setting :=
  modify (overlay value) (SettingPath.ofName name) tree

def assignAll (tree : Setting) (named : List (String × Setting)) : Setting :=
  named.foldl (fun tree entry => tree.assign entry.1 entry.2) tree

end Setting
end Scrutineer
