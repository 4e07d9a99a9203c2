import Typeforge.Toml.Reader
import Typeforge.Toml.Value

/-!
# Project files

A project file names the output directory and the plugins to run. A plugin stands there by its name, or as a
table with its name and its options.
-/

namespace Typeforge

/-- A plugin to run, with its options sorted by their keys. -/
structure PluginEntry where
  name : String
  options : List (String × Json.Value) := []

/-- The options as one value, if there are any. -/
def PluginEntry.value? (e : PluginEntry) : Option Json.Value :=
  if e.options.isEmpty then none else some (.object e.options)

structure Project where
  output : Option String := none
  plugins : List PluginEntry := []

namespace Project

open Toml

/-- The plugins to run when nobody names any. -/
def defaultPlugins : List String := ["typescript", "valibot"]

/-- The output directory when nobody names one. -/
def defaultOutput : String := "generated"

/-- A plugin from the fields of its table. -/
def entryOfFields? (fields : Fields) : Option PluginEntry :=
  match Keyed.get? fields "name" with
  | some (.string name) =>
    (fieldValues? (fields.filter fun f => f.1 != "name")).map fun options => ⟨name, sortFields options⟩
  | _ => none

def entry? : Tree → Option PluginEntry
  | .string name => some { name }
  | .table _ fields => entryOfFields? fields
  | _ => none

def entries? : Tree → Option (List PluginEntry)
  | .array items => items.mapM entry?
  | .tables rows => rows.mapM entryOfFields?
  | _ => none

/-- Puts a field of the project file into the project. Other fields than the two are refused. -/
def withField? (p : Project) : String × Tree → Option Project
  | ("output", .string output) => some { p with output := some output }
  | ("plugins", t) => (entries? t).map fun plugins => { p with plugins }
  | _ => none

def parse? (text : String) : Option Project := do
  (← Toml.parse? text).foldlM withField? {}

/-- The plugins to run when `names` are asked for. A plugin of the project keeps its options, and without
names all plugins of the project run. -/
def select (p : Project) (names : List String) : List PluginEntry :=
  match names, p.plugins with
  | [], [] => defaultPlugins.map fun name => { name }
  | [], plugins => plugins
  | names, plugins => names.map fun name => (plugins.find? fun e => e.name == name).getD { name }

end Project

end Typeforge
