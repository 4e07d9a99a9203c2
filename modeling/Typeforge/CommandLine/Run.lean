import Typeforge.CommandLine.Arguments
import Typeforge.Disk.Basic
import Typeforge.Plugin.Builtin
import Typeforge.Plugin.Run
import Typeforge.Project
import Typeforge.Schema.Decoding

/-!
# Commands

A command leaves an exit code and two texts. To generate, the project file is read first, then the plugins
are made, then the document is read; nothing is written before all files are generated.
-/

namespace Typeforge.CommandLine

/-- What a command leaves behind. -/
structure Outcome where
  code : Nat
  stdout : String := ""
  stderr : String := ""

inductive Trouble where
  | run (failure : Failure)
  | unreadable (path : String) (cause : FileError)
  | badProject
  | badDocument

def Trouble.message : Trouble → String
  | .run failure => failure.message
  | .unreadable path cause => "failed to read " ++ path ++ ": " ++ cause.message
  | .badProject => "invalid config file: expected `output` and `plugins` in TOML"
  | .badDocument => "invalid IR document: expected `components` and `operations` in JSON"

def ofLines (lines : List String) : String := String.join (lines.map (· ++ "\n"))

def usage : String := ofLines [
  "Compile normalized API schemas into TypeScript types and Valibot validators",
  "",
  "Usage: typeforge [COMMAND]",
  "",
  "Commands:",
  "  generate  Generate TypeScript files from an IR document",
  "  plugins   List the built-in plugins",
  "  help      Print this message",
  "",
  "Options of generate:",
  "  -i, --input <IR_JSON>   The IR document to compile",
  "  -c, --config <CONFIG>   Path to a project file",
  "  -o, --output <DIR>      Output directory",
  "  -p, --plugin <NAME>     Plugin to run; repeatable"]

def pluginLine (d : Descriptor) : String :=
  d.name ++ "\t" ++ d.output ++ ".ts\tdepends on: "
    ++ (if d.dependencies.isEmpty then "-" else Text.joinWith ", " d.dependencies)

def pluginLines : Except Failure (List String) :=
  Builtin.names.mapM fun name => do return pluginLine (← Builtin.instantiate name none).toDescriptor

section Steps

variable {m : Type → Type} [Monad m] (disk : Disk m)

def readText (path : String) : ExceptT Trouble m String := do
  match ← disk.readText path with
  | .ok text => return text
  | .error cause => throw (.unreadable path cause)

/-- The project of an order. -/
def loadProject : Option String → ExceptT Trouble m Project
  | none => return {}
  | some path => do
    match Project.parse? (← readText disk path) with
    | some project => return project
    | none => throw .badProject

def ofRun {α : Type} : Except Failure α → ExceptT Trouble m α
  | .ok a => return a
  | .error failure => throw (.run failure)

/-- Generates the files of an order, and gives the paths that were written. -/
def generateFiles (order : Order) : ExceptT Trouble m (List String) := do
  let project ← loadProject disk order.config
  let plugins ← ofRun ((project.select order.plugins).mapM fun e => Builtin.instantiate e.name e.value?)
  match Schema.Document.parse? (← readText disk order.input) with
  | none => throw .badDocument
  | some document =>
    let produced ← ofRun (generate document plugins)
    let directory := (order.output <|> project.output).getD Project.defaultOutput
    ofRun (← disk.writeFiles directory (produced.map (·.file)))

def execute : Command → m Outcome
  | .help => return { code := 0, stdout := usage }
  | .version => return { code := 0, stdout := ofLines ["typeforge 0.1.0"] }
  | .listPlugins =>
    match pluginLines with
    | .ok lines => return { code := 0, stdout := ofLines lines }
    | .error failure => return { code := 1, stderr := ofLines [failure.message] }
  | .generate order => do
    match ← (generateFiles disk order).run with
    | .ok paths => return { code := 0, stdout := ofLines paths }
    | .error trouble => return { code := 1, stderr := ofLines [trouble.message] }

/-- Carries out what the arguments ask for. -/
def run (args : List String) : m Outcome :=
  match parse? args with
  | some command => execute disk command
  | none => return { code := 2, stderr := usage }

end Steps

end Typeforge.CommandLine
