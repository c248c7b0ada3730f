import Scrutineer.Settings.Path
import Scrutineer.Text.Split

/-! Settings in environment variables. The name of a variable starts with a fixed
lead, in any letter case. What follows it spells a path in lower case, with two
underscores for a point. -/

namespace Scrutineer
namespace SettingVariable

def lead : String := "craft_"

def pointed : List Char → List Char
  | '_' :: '_' :: rest => '.' :: pointed rest
  | first :: rest => first :: pointed rest
  | [] => []

/-- The setting of an environment variable, with the name that spells its path;
none when the lead is another one. -/
def setting? (name value : String) : Option (String × Setting) :=
  (Text.dropLead? lead.toList (Text.foldCase name).toList).map fun rest =>
    (String.ofList (pointed rest), Setting.ofText value)

end SettingVariable
end Scrutineer
