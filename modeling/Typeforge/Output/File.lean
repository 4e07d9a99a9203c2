import Typeforge.Naming.Table
import Typeforge.Code.Printer

/-!
# Output files

What one generator writes: imports, statements, and the names that references have in the file.
-/

namespace Typeforge

open Code

structure File where
  /-- The key of the file, which is its path without the extension. -/
  id : String
  imports : List Import := []
  body : List Stmt := []
  names : Naming.Table := []

namespace File

def path (f : File) : String := f.id ++ ".ts"

/-- Adds an import, unless one of the same binding and module is there. -/
def addImport (f : File) (i : Import) : File :=
  if f.imports.any fun j => decide (j.specifier = i.specifier ∧ j.binding = i.binding) then f
  else { f with imports := f.imports ++ [i] }

def add (f : File) (s : Stmt) : File := { f with body := f.body ++ [s] }

/-- The file has no statements; imports do not count. -/
def isEmpty (f : File) : Bool := f.body.isEmpty

def nameOf? (f : File) (reference : String) : Option String := f.names.nameOf? reference

/-- Asks for the name of a reference. -/
def request (f : File) (reference : String) (style : Naming.Style) (create : Bool) :
    Option Naming.Assigned × File :=
  let (answer, names) := f.names.request reference style create
  (answer, { f with names })

def toModule (f : File) : Module := ⟨f.imports, f.body⟩

def text (f : File) : String := f.toModule.text

end File

end Typeforge
