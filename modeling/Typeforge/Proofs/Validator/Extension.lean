import Typeforge.Proofs.Validator.Asked
import Typeforge.Proofs.Validator.Dangling
import Typeforge.Proofs.Validator.Frame

/-!
# More operations after those of a document

Operations are looked at last, and references lead to components only. So when a document gets more operations after
its own, the run over it begins as it did before (`ends_declareAll_extended`), and what the further operations have
declared is added to what is there: no declaration changes, moves or gets another name (`File.Extended`).

* `follow_operations`: following looks at the components of a document and at nothing else;
* `keeps_declareTarget_kept`: declaring a target loses nothing;
* `targets_extended`: the targets of the further operations come after all others.
-/

namespace Typeforge

open Schema

/-- The document with more operations after its own. -/
def Schema.Document.extended (d : Document) (more : List Operation) : Document :=
  { d with operations := d.operations ++ more }

/-- All that is in the first file is in the second one too: the statements at the same places, each name at the same
reference, and the imports. -/
structure File.Extended (file file' : File) : Prop where
  body : file.body <+: file'.body
  names : ∀ r name, file.nameOf? r = some name → file'.nameOf? r = some name
  imports : file'.imports = file.imports

namespace Validator

open Naming

variable {options : Options} {d : Document} {more : List Operation}

/-! ### What following looks at -/

section Components

theorem follow_operations (operations : List Operation) (budget : Nat) :
    follow ⟨{ d with operations }, options⟩ budget = follow ⟨d, options⟩ budget := by
  induction budget with
  | zero => rfl
  | succ budget ih =>
    funext r
    rw [follow_succ, follow_succ, ih]
    -- a step looks at the components alone
    rfl

theorem declareTarget_operations (operations : List Operation) (x : Target) :
    declareTarget ⟨{ d with operations }, options⟩ x = declareTarget ⟨d, options⟩ x := by
  have hbudget : followBudget { d with operations } = followBudget d := rfl
  unfold declareTarget declare
  rw [hbudget, follow_operations]

end Components

/-! ### What declaring a target leaves alone -/

section Targets

variable {task : Task} {s t u : Session} {style : Style}

/-- Steps apart lose nothing that they would not lose in a session of their own. -/
theorem Kept.rejoined (h : Kept (s.alone style) u) : Kept s (s.rejoined u) where
  following := rfl
  style := rfl
  postponed := id
  names := h.names
  declarations := h.declarations

theorem keeps_declareTarget_kept (x : Target) : Keeps Kept (declareTarget task x) := by
  intro s res t h
  obtain ⟨declared, u, hu, -, rfl⟩ := ends_declareTarget h
  have kept : Keeps Kept
      (declareWith task.options (follow task (followBudget task.document)) x.reference x.node x.style) :=
    keeps_declareWith_kept fun r => keeps_follow_kept _ r
  exact (kept _ _ _ hu).rejoined

end Targets

/-! ### The run over the extended document -/

section Run

variable {s t : Session}

theorem targets_extended (options : Options) (d : Document) (more : List Operation) :
    targets options (d.extended more)
      = targets options d ++ more.flatMap fun o => targetsOf options (.operation o) := by
  rw [targets_eq, targets_eq, List.append_assoc, ← List.flatMap_append]
  rfl

/-- **The run over the document is the beginning of the run over the extended one.** -/
theorem ends_declareAll_extended (h : Ends (declareAll ⟨d.extended more, options⟩) s (.ok ()) t) :
    ∃ u, Ends (declareAll ⟨d, options⟩) s (.ok ()) u ∧ Kept u t := by
  have hall : declareAll ⟨d.extended more, options⟩ = (targets options d
      ++ more.flatMap fun o => targetsOf options (.operation o)).forM (declareTarget ⟨d, options⟩) := by
    rw [declareAll_eq, ← targets_extended]
    exact congrArg (List.forM _) (funext fun x => declareTarget_operations _ x)
  rw [hall] at h
  obtain ⟨u, hu, hmore⟩ := ends_forM_append_ok h
  have kept : Keeps Kept ((more.flatMap fun o => targetsOf options (.operation o)).forM
      (declareTarget ⟨d, options⟩)) := Keeps.forM Kept.refl Kept.trans fun x _ => keeps_declareTarget_kept x
  exact ⟨u, by rwa [declareAll_eq], kept _ _ _ hmore⟩

/-- **Further operations only add to the file of validators.** Where the file of the extended document is filled, so is
the file of the document, and all that is in it stays as it is. -/
theorem fillFile_extended {start file' : File} (h : fillFile options (d.extended more) start = .ok file') :
    ∃ file, fillFile options d start = .ok file ∧ file.Extended file' := by
  rcases fillFile_cases options (d.extended more) start with ⟨t, hends, hok⟩ | ⟨e, t, -, herror⟩
  · rw [hok] at h
    cases h
    obtain ⟨u, hu, hkept⟩ := ends_declareAll_extended hends
    have framed := hkept.framed (start.addImport libraryImport)
    rcases fillFile_cases options d start with ⟨s, hs, hfile⟩ | ⟨e, s, hs, -⟩
    · obtain ⟨-, rfl⟩ := Prod.mk.inj (hs.symm.trans hu)
      exact ⟨_, hfile, framed.body, framed.names, framed.imports⟩
    · cases hs.symm.trans hu
  · rw [herror] at h
    cases h

end Run

/-- A pet, and an operation that gets it. -/
def clinic : Document where
  components := { schemas := [("Pet", { kind := some .string })] }
  operations := [
    { id := "get", method := "get", path := "/pet",
      response := some { reference := some "#/components/schemas/Pet" } }]

/-- An operation whose request is called as that of the first one, and that one again with another response. -/
def visits : List Operation := [
  { id := "Get", method := "get", path := "/visit",
    response := some { kind := some .array, items := some [{ reference := some "#/components/schemas/Pet" }] } },
  { id := "get", method := "get", path := "/owner", response := some { kind := some .null } }]

/-- The operations that clash with the one that is there leave its declarations as they are. -/
theorem clinic_extended : ∃ file', fillFile {} (clinic.extended visits) { id := "valibot" } = .ok file' ∧
    ∃ file, fillFile {} clinic { id := "valibot" } = .ok file ∧ file.Extended file' := by
  obtain ⟨file', h⟩ : ∃ file', fillFile {} (clinic.extended visits) { id := "valibot" } = .ok file' :=
    exists_fillFile (by decide +kernel)
  exact ⟨file', h, fillFile_extended h⟩

end Validator

end Typeforge
