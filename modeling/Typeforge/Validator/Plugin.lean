import Typeforge.Plugin.Descriptor
import Typeforge.Validator.Request

/-!
# The validator plugin

Declares a validator for every component, and for every operation one for its request and one for the
response.
-/

namespace Typeforge.Validator

open Schema

def pluginName : String := "valibot"

/-- Declares what an event shows. -/
def declareEvent (task : Task) : Event → Compile Unit
  | .schema reference n => declareIn reference n
  | .parameter reference p => declareIn reference p.schema
  | .requestBody reference b => declareIn reference b.schema
  | .operation o => declareOperation task o
where
  declareIn (reference : String) (n : Node) : Compile Unit :=
    let style := task.options.definitions.toStyle
    apart style (declare task reference n style)

def declareAll (task : Task) : Compile Unit :=
  task.document.visit [.operation, .parameter, .requestBody, .schema] (declareEvent task)

/-- The file after a session that began with its names. -/
def Session.addTo (s : Session) (file : File) : File :=
  { file with names := s.names, body := file.body ++ s.declarations.flatMap Declaration.statements }

def fillFile (options : Options) (document : Document) (file : File) : Except Failure File :=
  let file := file.addImport libraryImport
  let start : Session := { names := file.names, style := options.definitions.toStyle }
  match (declareAll ⟨document, options⟩).run.run start with
  | (.ok (), s) => .ok (s.addTo file)
  | (.error e, _) => .error e

def plugin (options : Options) : Plugin where
  name := pluginName
  output := options.output
  fill view file := fillFile options view.document file

end Typeforge.Validator
