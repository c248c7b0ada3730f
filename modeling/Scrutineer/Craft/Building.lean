import Scrutineer.Text.Blank

/-! The buildings in which crafts are put together. -/

namespace Scrutineer

inductive Building where
  | hangar
  | assemblyHall
deriving DecidableEq

namespace Building

def all : List Building := [.hangar, .assemblyHall]

def tag : Building → String
  | .hangar => "SPH"
  | .assemblyHall => "VAB"

def key : Building → String
  | .hangar => "sph"
  | .assemblyHall => "vab"

def ofTag? (text : String) : Option Building :=
  all.find? (·.key == Text.tagKey text)

end Building

end Scrutineer
