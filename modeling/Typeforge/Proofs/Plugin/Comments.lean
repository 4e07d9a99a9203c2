import Typeforge.Proofs.Types.Comments
import Typeforge.Proofs.Validator.Comments

/-!
# Comments in the files of the plugins

Two configurations of a plugin that differ in nothing but the switch for the comments and the switch of the family of
the definitions have the same failures, and their files are the same but for comments.
-/

namespace Typeforge

open Schema

/-- **The switches for comments and definitions change comments only**, in both files. -/
theorem plugins_agree_but_comments (d : Document) (file : File) (comments enabled : Bool) :
    (∀ options : Validator.Options, AgreeButComments (Validator.fillFile options d file)
      (Validator.fillFile (options.switched comments enabled) d file)) ∧
    ∀ options : Types.Options, AgreeButComments (Types.fillFile options d file)
      (Types.fillFile (options.switched comments enabled) d file) :=
  ⟨fun options => Validator.fillFile_switched options comments enabled d file,
    fun options => Types.fillFile_switched options comments enabled d file⟩

end Typeforge
