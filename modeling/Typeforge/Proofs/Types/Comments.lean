import Typeforge.Proofs.Alike
import Typeforge.Proofs.Output.Comments
import Typeforge.Proofs.Types.Fill

/-!
# Comments on types

Whether the types have comments, and whether their family is enabled, has no part in anything else: two runs that
differ in these options only fail alike, or fill files that differ at most in their comments.
-/

namespace Typeforge.Types

open Code Schema File

/-- The options with other switches for the comments and for the family of the definitions. -/
def Options.switched (options : Options) (comments enabled : Bool) : Options :=
  { options with comments, definitions := { options.definitions with enabled } }

section Runs

variable {options : Options} {comments enabled : Bool} {d : Document} {file file' : File} {n : Node} {r : String}

theorem alike_assignName :
    Alike SameButComments (assignName options r) (assignName (options.switched comments enabled) r) := by
  refine Alike.modifyGet fun s s' h => ?_
  rw [h.names]
  exact ⟨rfl, h.imports, rfl, h.code⟩

theorem alike_nameOfTarget :
    Alike SameButComments (nameOfTarget options d r) (nameOfTarget (options.switched comments enabled) d r) := by
  unfold nameOfTarget
  split
  · exact alike_assignName
  · exact Alike.throw _

theorem SameButComments.addShape (h : SameButComments file file') (name : String) (s : Shape) : SameButComments
    (addShape options n name s file) (addShape (options.switched comments enabled) n name s file') := by
  have comment {f g : File} (h : SameButComments f g) (cs : List String) :
      SameButComments f (if cs.isEmpty then g else g.add (.doc cs)) := by
    split
    · exact h
    · exact h.add_doc cs
  exact (comment (comment h _).symm _).symm.add _

theorem alike_declare :
    Alike SameButComments (declare options d r n) (declare (options.switched comments enabled) d r n) := by
  rw [declare_eq, declare_eq]
  refine Alike.bind alike_assignName fun name => Alike.bind (Alike.mapM fun r _ => alike_nameOfTarget) fun names => ?_
  exact Alike.modify fun s s' h => SameButComments.addShape h _ _

theorem alike_declareEvent (e : Event) :
    Alike SameButComments (declareEvent options d e) (declareEvent (options.switched comments enabled) d e) := by
  unfold declareEvent
  split
  · exact alike_declare
  · exact Alike.pure _

/-- **Switching comments changes comments only**: the failure, or else the imports, names and statements of the file
of types are the same. -/
theorem fillFile_switched (options : Options) (comments enabled : Bool) (d : Document) (file : File) :
    AgreeButComments (fillFile options d file) (fillFile (options.switched comments enabled) d file) := by
  have alike : Alike SameButComments (d.visit [.schema, .parameter, .requestBody] (declareEvent options d))
      (d.visit [.schema, .parameter, .requestBody] (declareEvent (options.switched comments enabled) d)) :=
    Alike.forM fun e _ => alike_declareEvent e
  obtain ⟨r, t, t', h, h', ht⟩ := alike.ends (.refl file)
  unfold fillFile
  rw [h, h']
  cases r with
  | error e => exact .failed e
  | ok _ => exact .filled ht

end Runs

end Typeforge.Types
