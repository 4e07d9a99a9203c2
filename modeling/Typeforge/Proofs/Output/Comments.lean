import Typeforge.Failure
import Typeforge.Output.File

/-!
# Files that differ in their comments

Two files are the same but for comments when they have the same imports, the same names and, without the comments,
the same statements.
-/

namespace Typeforge

open Code

def Code.Stmt.isComment : Stmt → Bool
  | .doc _ => true
  | _ => false

namespace File

/-- The statements of the file without the comments. -/
def code (f : File) : List Stmt := f.body.filter fun s => !s.isComment

structure SameButComments (f g : File) : Prop where
  imports : g.imports = f.imports
  names : g.names = f.names
  code : g.code = f.code

variable {f g : File}

theorem SameButComments.refl (f : File) : SameButComments f f := ⟨rfl, rfl, rfl⟩

@[simp] theorem code_add (f : File) (s : Stmt) : (f.add s).code = f.code ++ if s.isComment then [] else [s] := by
  cases h : s.isComment <;> simp [code, add, h]

theorem SameButComments.add_doc (h : SameButComments f g) (paragraphs : List String) :
    SameButComments f (g.add (.doc paragraphs)) :=
  ⟨h.imports, h.names, by simp [Stmt.isComment, h.code]⟩

theorem SameButComments.symm (h : SameButComments f g) : SameButComments g f :=
  ⟨h.imports.symm, h.names.symm, h.code.symm⟩

theorem SameButComments.add (h : SameButComments f g) (s : Stmt) : SameButComments (f.add s) (g.add s) :=
  ⟨h.imports, h.names, by simp [h.code]⟩

end File

/-- Both runs fail with the same failure, or both fill a file and the files differ at most in their comments. -/
inductive AgreeButComments : Except Failure File → Except Failure File → Prop
  | failed (e : Failure) : AgreeButComments (.error e) (.error e)
  | filled {f g : File} (h : f.SameButComments g) : AgreeButComments (.ok f) (.ok g)

end Typeforge
