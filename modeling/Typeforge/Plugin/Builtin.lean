import Typeforge.Types.Plugin
import Typeforge.Validator.Plugin

/-!
# The plugins by name
-/

namespace Typeforge.Builtin

/-- What makes a plugin of the name from the changes to its options that a JSON value writes. -/
def configured {Changes : Type} (name : String) (decode : Json.Decoder Changes) (make : Option Changes → Plugin)
    (value : Option Json.Value) : Except Failure Plugin :=
  match value with
  | none => .ok (make none)
  | some v =>
    match Json.Decoder.ofValue? decode v with
    | some changes => .ok (make (some changes))
    | none => .error (.misconfigured (.badOptions name))

/-- The plugins, each by its name and what makes it from options. -/
def plugins : List (String × (Option Json.Value → Except Failure Plugin)) := [
  (Types.pluginName, configured Types.pluginName Types.OptionChanges.decode fun changes =>
    Types.plugin (.resolve changes)),
  (Validator.pluginName, configured Validator.pluginName Validator.OptionChanges.decode fun changes =>
    Validator.plugin (.resolve changes))]

def names : List String := plugins.map Prod.fst

/-- The plugin of a name, with options. -/
def instantiate (name : String) (options : Option Json.Value) : Except Failure Plugin :=
  match Keyed.get? plugins name with
  | some make => make options
  | none => .error (.unknownPlugin name names)

end Typeforge.Builtin
