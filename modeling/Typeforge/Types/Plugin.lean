import Typeforge.Plugin.Descriptor
import Typeforge.Types.Options
import Typeforge.Types.Shape

/-!
# The types plugin

Declares an interface or an alias for every component.
-/

namespace Typeforge.Types

open Schema Code

def pluginName : String := "typescript"

/-- Steps that fill a file. -/
abbrev Fill := ExceptT Failure (StateM File)

/-- The name of a reference in the style of the definitions. -/
def assignName (options : Options) (reference : String) : Fill String :=
  modifyGet fun file =>
    let (assigned, names) := file.names.assign reference options.definitions.toStyle
    (assigned.name, { file with names })

/-- The name of a reference that leads to a component. -/
def nameOfTarget (options : Options) (document : Document) (reference : String) : Fill String :=
  match document.resolve? reference with
  | some _ => assignName options reference
  | none => throw (.danglingReference reference)

/-- The shape with names for its references. -/
def named (options : Options) (document : Document) : Shape → Fill Shape
  | .interface members => do return .interface (← namingMembers (nameOfTarget options document) members)
  | .typeAlias type => do return .typeAlias (← type.naming (nameOfTarget options document))

/-- Declares the node that a reference leads to. -/
def declare (options : Options) (document : Document) (reference : String) (n : Node) : Fill Unit := do
  let name ← assignName options reference
  let shape ← named options document (.ofNode n)
  let comment := if options.comments then commentOn n.toAttributes else []
  if !comment.isEmpty then modify fun file => file.add (.doc comment)
  modify fun file => file.add (shape.statement name)

/-- Declares what an event shows. -/
def declareEvent (options : Options) (document : Document) (event : Event) : Fill Unit :=
  match event.reference?, event.node? with
  | some reference, some n => declare options document reference n
  | _, _ => pure ()

def fillFile (options : Options) (document : Document) (file : File) : Except Failure File :=
  match (document.visit [.schema, .parameter, .requestBody] (declareEvent options document)).run.run file with
  | (.ok (), file) => .ok file
  | (.error e, _) => .error e

def plugin (options : Options) : Plugin where
  name := pluginName
  output := options.output
  fill view file := fillFile options view.document file

end Typeforge.Types
