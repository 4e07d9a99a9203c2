import Typeforge.Output.File

/-!
# The names that a file declares

Each statement but a comment declares one name. In a module a declared name hides whatever else has the name,
so a text that means something from outside by a name has to be in a file that does not declare it.
-/

namespace Typeforge

open Code

def Code.Stmt.declared? : Stmt → Option String
  | .const _ name _ _ | .interface name _ | .typeAlias name _ => some name
  | .doc _ => none

@[simp] theorem Code.Stmt.declared?_doc (paragraphs : List String) : (Stmt.doc paragraphs).declared? = none := rfl

namespace File

def declared (f : File) : List String := f.body.filterMap Stmt.declared?

variable (f : File)

@[simp] theorem declared_add (s : Stmt) : (f.add s).declared = f.declared ++ s.declared?.toList := by
  unfold declared add
  rw [List.filterMap_append]
  cases h : s.declared? <;> simp [h]

@[simp] theorem names_add (s : Stmt) : (f.add s).names = f.names := rfl

end File

end Typeforge
