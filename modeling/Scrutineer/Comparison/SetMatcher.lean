import Scrutineer.Json.Decode
import Scrutineer.Text.Blank

/-! Matching sets of names. A matcher says how many of the names in a list must be
present: none of them, any of them, or all of them. -/

namespace Scrutineer

inductive SetMatcher where
  | none
  | any
  | all
deriving DecidableEq

namespace SetMatcher

def listing : List SetMatcher := [.none, .any, .all]

def tag : SetMatcher → String
  | .none => "none"
  | .any => "any"
  | .all => "all"

def ofTag? (text : String) : Option SetMatcher :=
  listing.find? (·.tag == Text.tagKey text)

def holds (matcher : SetMatcher) (isPresent : String → Bool) (names : List String) : Bool :=
  match matcher with
  | .none => !names.any isPresent
  | .any => names.any isPresent
  | .all => names.all isPresent

def tagged : List (String × SetMatcher) :=
  listing.map fun matcher => (matcher.tag, matcher)

def decoder : Decoder SetMatcher := Decoder.named tagged

def ofJson : Json → Except DecodeError SetMatcher := Decoder.namedInValue tagged

def toJson (matcher : SetMatcher) : Json := .text matcher.tag

end SetMatcher

end Scrutineer
