import Typeforge.Failure
import Typeforge.Output.File
import Typeforge.Schema.Document

/-!
# Plugins

A plugin fills one file from the document. It may read the files of the plugins it depends on, which have
run before it.
-/

namespace Typeforge

structure Descriptor where
  name : String
  /-- The plugins that go first. A name that no plugin has means nothing. -/
  dependencies : List String := []
  /-- The key of the file that the plugin writes. -/
  output : String
deriving DecidableEq

/-- A file with the name of the plugin that filled it. -/
structure Produced where
  plugin : String
  file : File

/-- What a plugin sees while it runs. -/
structure View where
  document : Schema.Document
  /-- The finished files of the plugins that ran before. -/
  produced : List Produced := []

def View.fileOf? (v : View) (plugin : String) : Option File :=
  (v.produced.find? fun p => p.plugin = plugin).map (·.file)

structure Plugin extends Descriptor where
  /-- Fills the file, which is empty before. -/
  fill : View → File → Except Failure File

end Typeforge
