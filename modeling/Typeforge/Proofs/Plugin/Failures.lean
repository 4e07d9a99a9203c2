import Typeforge.Proofs.Types.Fill
import Typeforge.Proofs.Validator.Dangling

/-!
# The failures of the plugins

The two plugins fail for one reason only: a reference that the document writes down leads nowhere. Whatever
else is odd in a schema (a format no one knows, members that do not fit together, no items at all) has some
validator and some type.
-/

namespace Typeforge

open Schema

/-- **Only dangling references stop a plugin**, and where there are none both files are filled. -/
theorem plugins_fail_at_dangling_references (d : Document) :
    (∀ options file e, Validator.fillFile options d file = .error e →
      ∃ r ∈ d.references, d.resolve? r = none ∧ e = .danglingReference r) ∧
    (∀ options file e, Types.fillFile options d file = .error e →
      ∃ r ∈ d.references, d.resolve? r = none ∧ e = .danglingReference r) ∧
    ((∀ r ∈ d.references, d.resolve? r ≠ none) →
      (∀ options file, ∃ filled, Validator.fillFile options d file = .ok filled) ∧
      ∀ options file, ∃ filled, Types.fillFile options d file = .ok filled) :=
  ⟨fun _ _ _ h => Validator.fillFile_error h, fun _ _ _ h => Types.fillFile_error h,
    fun hall => ⟨fun _ _ => Validator.exists_fillFile hall, fun _ _ => Types.exists_fillFile hall⟩⟩

end Typeforge
