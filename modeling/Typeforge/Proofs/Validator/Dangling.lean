import Typeforge.Proofs.Validator.Budget

/-!
# The failures of the validator plugin

Declaring fails only at a reference that leads nowhere, and such a reference is written down in the document:
what is followed was met in one of its schemas, however it was collapsed or put together before. That the
budget of following runs out is no reason to fail, since it does not.
-/

namespace Typeforge.Validator

open Schema

section Fails

variable {P : Failure → Prop} {task : Task} {inner : String → Compile Use} {r : String} {n : Node}

theorem fails_declareWith {style : Naming.Style} (hinner : ∀ r' ∈ holesIn task.options n, Fails P (inner r')) :
    Fails P (declareWith task.options inner r n style) := by
  intro s e t h
  cases declareResult_of_ends h with
  | failed hr hu => exact Fails.mapM hinner _ _ _ hu

theorem fails_followStep (hdangling : task.document.resolve? r = none → P (.danglingReference r))
    (hinner : ∀ n, task.document.resolve? r = some n → ∀ r' ∈ holesIn task.options n, Fails P (inner r')) :
    Fails P (followStep task inner r) := by
  intro s e t h
  cases followResult_of_ends h with
  | failed hr hn hu => exact fails_declareWith (hinner _ hn) _ _ _ hu
  | dangling hr hn => exact hdangling hn

variable {allowed : String → Prop}

/-- If running out of the budget were no such failure, following would fail at dangling references only. -/
theorem fails_followOr {gone : String → Compile Use} (closed : Closed task allowed)
    (hdangling : ∀ r, allowed r → task.document.resolve? r = none → P (.danglingReference r))
    (hgone : ∀ r, Fails P (gone r)) (budget : Nat) (hr : allowed r) : Fails P (followOr task gone budget r) := by
  induction budget generalizing r with
  | zero => exact hgone r
  | succ budget ih => exact fails_followStep (hdangling r hr) fun n hn r' hr' => ih (closed r n hr hn r' hr')

/-- Nor is it one: with its budget, following a reference fails at dangling references only. -/
theorem fails_follow (closed : Closed task allowed)
    (hdangling : ∀ r, allowed r → task.document.resolve? r = none → P (.danglingReference r)) (hr : allowed r) :
    Fails P (follow task (followBudget task.document) r) := by
  rw [← followOr_eq_follow (fun _ => pure ⟨"", false⟩) (Nat.le_refl _)]
  exact fails_followOr closed hdangling (fun _ => Fails.pure _) _ hr

theorem fails_declareTarget {x : Target} (hx : x ∈ targets task.options task.document) :
    Fails task.document.Dangling (declareTarget task x) := by
  obtain ⟨event, he, hx⟩ := mem_targets hx
  intro s e t h
  obtain ⟨declared, u, hu, hresult, -⟩ := ends_declareTarget h
  cases declared with
  | error e' =>
    cases hresult
    -- what is followed is written down in the document
    have closed : Closed task (· ∈ task.document.references) := fun _ _ _ hn _ hr => holesIn_resolve? hn hr
    refine fails_declareWith (fun r hr => ?_) _ _ _ hu
    exact fails_follow closed (fun r hr hnone => ⟨r, hr, hnone, rfl⟩) (target_references he hx (outline_holes _ hr))
  | ok name => cases hresult

theorem fails_declareAll : Fails task.document.Dangling (declareAll task) := by
  rw [declareAll_eq]
  exact Fails.forM fun x hx => fails_declareTarget hx

end Fails

section File

variable {options : Options} {d : Document} {file : File}

theorem fillFile_error {e : Failure} (h : fillFile options d file = .error e) : d.Dangling e := by
  rcases fillFile_cases options d file with ⟨s, -, hok⟩ | ⟨e', s, hends, herror⟩
  · rw [hok] at h
    cases h
  · rw [herror] at h
    cases h
    have fails : Fails d.Dangling (declareAll ⟨d, options⟩) := fails_declareAll
    exact fails _ _ _ hends

theorem exists_fillFile (hall : ∀ r ∈ d.references, d.resolve? r ≠ none) :
    ∃ filled, fillFile options d file = .ok filled := by
  cases h : fillFile options d file with
  | ok filled => exact ⟨filled, rfl⟩
  | error e =>
    obtain ⟨r, hr, hnone, -⟩ := fillFile_error h
    exact absurd hnone (hall r hr)

end File

end Typeforge.Validator
