/-!
# Arguments

What the command line asks for. An option takes the next argument as its value, unless that looks like an
option itself, or what is attached to it, with or without an equals sign. Help is given as soon as it is asked
for; what comes before has to be in order.
-/

namespace Typeforge.CommandLine

/-- What to generate from, and where to. -/
structure Order where
  input : String
  config : Option String := none
  output : Option String := none
  /-- The names of the plugins to run, in order. -/
  plugins : List String := []

inductive Command where
  | help
  | version
  | listPlugins
  | generate (order : Order)

/-- The options of `generate` that take a value. -/
inductive Flag where
  | input
  | config
  | output
  | plugin
deriving DecidableEq

/-- The options as far as they are read. -/
structure Given where
  input : Option String := none
  config : Option String := none
  output : Option String := none
  plugins : List String := []

/-- Gives an option its value. Only plugins may be named more than once, and only their names may be
empty. -/
def Given.set? (g : Given) (flag : Flag) (value : String) : Option Given :=
  let once (old : Option String) : Bool := old.isNone && !value.isEmpty
  match flag with
  | .input => if once g.input then some { g with input := some value } else none
  | .config => if once g.config then some { g with config := some value } else none
  | .output => if once g.output then some { g with output := some value } else none
  | .plugin => some { g with plugins := g.plugins ++ [value] }

def longFlags : List (String × Flag) :=
  [("input", .input), ("config", .config), ("output", .output), ("plugin", .plugin)]

def shortFlags : List (Char × Flag) := [('i', .input), ('c', .config), ('o', .output), ('p', .plugin)]

/-- One argument by its form. -/
inductive Argument where
  /-- Two hyphens alone, after which no option comes. -/
  | divider
  /-- A long option, with the value that an equals sign attaches to it. -/
  | long (name : String) (attached : Option String)
  /-- Letters after one hyphen. -/
  | short (letters : List Char)
  /-- Any other text. -/
  | plain (text : String)

def Argument.ofString (s : String) : Argument :=
  match s.toList with
  | ['-', '-'] => .divider
  | '-' :: '-' :: cs =>
    match cs.dropWhile (· != '=') with
    | [] => .long (String.ofList cs) none
    | _ :: value => .long (String.ofList (cs.takeWhile (· != '='))) (some (String.ofList value))
  | '-' :: c :: cs => .short (c :: cs)
  | _ => .plain s

/-- A text that can be the value of the option before it. -/
def isValue (s : String) : Bool :=
  match Argument.ofString s with
  | .plain _ => true
  | _ => false

/-- The value that is attached to a letter. -/
def attachedValue : List Char → String
  | '=' :: cs => String.ofList cs
  | cs => String.ofList cs

/-- What stands for an option and its value. -/
inductive Token where
  | help
  | flag (flag : Flag) (attached : Option String)

/-- The option of `generate` that an argument is. -/
def token? : Argument → Option Token
  | .long "help" none => some .help
  | .long name attached => (longFlags.lookup name).map fun f => .flag f attached
  | .short ('h' :: _) => some .help
  | .short (c :: cs) =>
    (shortFlags.lookup c).map fun f => .flag f (if cs.isEmpty then none else some (attachedValue cs))
  | _ => none

/-- The command that the options make once all are read. -/
def Given.command? (g : Given) : Option Command :=
  g.input.map fun input => .generate { g with input }

/-- The arguments of `generate` after what is given. -/
def readGenerate (g : Given) : List String → Option Command
  | [] => g.command?
  | ["--"] => g.command?
  | a :: rest =>
    match token? (.ofString a), rest with
    | some .help, _ => some .help
    | some (.flag f (some value)), rest => (g.set? f value).bind fun g => readGenerate g rest
    | some (.flag f none), value :: rest =>
      if isValue value then (g.set? f value).bind fun g => readGenerate g rest else none
    | _, _ => none

/-- The arguments of a command that has no options but the one for help. -/
def readPlain (command : Command) : List String → Option Command
  | [] => some command
  | ["--"] => some command
  | a :: _ =>
    match Argument.ofString a with
    | .long "help" none => some .help
    | .short ('h' :: _) => some .help
    | _ => none

/-- The commands that help is given on. -/
def isTopic (topics : List String) : Bool :=
  match topics with
  | [] => true
  | [topic] => ["generate", "plugins", "help"].contains topic
  | _ => false

/-- The command of all arguments, or `none` when they are not in order. -/
def parse? : List String → Option Command
  | [] => some .help
  | a :: rest =>
    match Argument.ofString a with
    | .divider => if rest.isEmpty then some .help else none
    | .long "help" none => some .help
    | .long "version" none => some .version
    | .short ('h' :: _) => some .help
    | .short ('V' :: _) => some .version
    | .plain "generate" => readGenerate {} rest
    | .plain "plugins" => readPlain .listPlugins rest
    | .plain "help" => if isTopic rest then some .help else none
    | _ => none

end Typeforge.CommandLine
