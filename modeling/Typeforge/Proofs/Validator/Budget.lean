import Typeforge.Proofs.Validator.Growth

/-!
# The budget of following does not run out

Each reference on a way gets its name before the way goes on, so the references in the components that have
no name yet become fewer with every step, and `followBudget` has room for all of them, for the one before
them and for the one after. What is done when a budget has run out is therefore of no importance
(`followOr_eq_follow`), and `follow` with its budget solves the equation that a recursion without a budget
would have (`followStep_follow`).
-/

namespace Typeforge.Validator

open Schema Naming

section Measure

variable {d : Document} {s t : Session} {r : String}

/-- How many references in the components have no name yet. -/
def unnamed (d : Document) (s : Session) : Nat :=
  (d.components.references.toFinset.filter fun r => s.names.nameOf? r = none).card

/-- The budget that following a reference needs at most. A reference from elsewhere may come before those in
the components. -/
def needed (d : Document) (s : Session) (r : String) : Nat :=
  unnamed d s + if r ∈ d.components.references then 1 else 2

theorem Grows.unnamed_le {allowed : String → Prop} (h : Grows allowed s t) : unnamed d t ≤ unnamed d s := by
  refine Finset.card_le_card fun r hr => ?_
  rw [Finset.mem_filter] at hr ⊢
  exact ⟨hr.1, h.nameOf?_eq_none hr.2⟩

theorem unnamed_entering : unnamed d (s.entering r) = unnamed d s := by simp [unnamed]

theorem unnamed_naming_subset {style : Style} :
    (d.components.references.toFinset.filter fun r' => (s.naming r style).names.nameOf? r' = none)
      ⊆ d.components.references.toFinset.filter fun r' => s.names.nameOf? r' = none := by
  intro r' hr'
  rw [Finset.mem_filter, Session.naming_names, Table.nameOf?_append] at hr'
  rw [Finset.mem_filter]
  exact ⟨hr'.1, ((Option.orElse_eq_none _ _).1 hr'.2).1⟩

theorem unnamed_naming_le (style : Style) : unnamed d (s.naming r style) ≤ unnamed d s :=
  Finset.card_le_card unnamed_naming_subset

theorem unnamed_naming_lt (style : Style) (hr : r ∈ d.components.references) (hnone : s.names.nameOf? r = none) :
    unnamed d (s.naming r style) < unnamed d s := by
  refine Finset.card_lt_card ((Finset.ssubset_iff_of_subset unnamed_naming_subset).2 ⟨r, ?_, fun hmem => ?_⟩)
  · exact Finset.mem_filter.2 ⟨List.mem_toFinset.2 hr, hnone⟩
  · rw [Finset.mem_filter, Session.nameOf?_naming hnone] at hmem
    cases hmem.2

theorem needed_le_followBudget (d : Document) (s : Session) (r : String) : needed d s r ≤ followBudget d := by
  have : unnamed d s ≤ d.components.references.length :=
    (Finset.card_filter_le _ _).trans (List.toFinset_card_le _)
  unfold needed followBudget
  split <;> omega

end Measure

section Budget

variable {task : Task} (gone : String → Compile Use)

theorem run_declareWith_congr {options : Options} {f f' : String → Compile Use} {r : String} {n : Node}
    {style : Style} {s : Session} (hr : s.names.nameOf? r = none)
    (same : ((holesIn options n).mapM f).run.run ((s.naming r style).entering r)
      = ((holesIn options n).mapM f').run.run ((s.naming r style).entering r)) :
    (declareWith options f r n style).run.run s = (declareWith options f' r n style).run.run s := by
  rw [run_declareWith_unnamed hr, run_declareWith_unnamed hr, same]

/-- With budgets that reach as far as is needed, what is done beyond them does not count. -/
theorem run_follow_eq (k k' : Nat) {r : String} {s : Session} (hk : needed task.document s r ≤ k)
    (hk' : needed task.document s r ≤ k') :
    (follow task k r).run.run s = (followOr task gone k' r).run.run s := by
  induction k generalizing k' r s with
  | zero => unfold needed at hk; split at hk <;> omega
  | succ k ih =>
    obtain ⟨k', rfl⟩ : ∃ j, k' = j + 1 := ⟨k' - 1, by unfold needed at hk'; split at hk' <;> omega⟩
    rw [follow_succ, followOr]
    cases hr : s.names.nameOf? r with
    | some name => rw [run_followStep_named hr, run_followStep_named hr]
    | none =>
      cases hn : task.document.resolve? r with
      | none => rw [run_followStep_dangling hr hn, run_followStep_dangling hr hn]
      | some n =>
        rw [run_followStep_found hr hn, run_followStep_found hr hn]
        -- whatever is followed from here on is in the components, and `r` has its name
        have inside : ∀ r' ∈ holesIn task.options n, r' ∈ task.document.components.references := fun r' hr' =>
          Document.references_of_component (Document.resolve?_mem hn) (outline_holes _ hr')
        have start : unnamed task.document ((s.naming r s.style).entering r) + 1 ≤ k ∧
            unnamed task.document ((s.naming r s.style).entering r) + 1 ≤ k' := by
          rw [unnamed_entering]
          unfold needed at hk hk'
          split at hk
          · rename_i hmem
            rw [if_pos hmem] at hk'
            have := unnamed_naming_lt s.style hmem hr
            omega
          · rename_i hmem
            rw [if_neg hmem] at hk'
            have := unnamed_naming_le (d := task.document) (s := s) (r := r) s.style
            omega
        rw [run_declareWith_congr hr (run_mapM_congr
          (I := fun u => unnamed task.document u + 1 ≤ k ∧ unnamed task.document u + 1 ≤ k') ?_ ?_ start)]
        · intro r' hr' u hu
          refine ih k' ?_ ?_ <;> rw [needed, if_pos (inside r' hr')]
          · exact hu.1
          · exact hu.2
        · intro r' _ u use v hu h
          have := (keeps_follow_all k r' _ _ _ h).unnamed_le (d := task.document)
          omega

/-- **The budget does not run out**, whatever would be done if it did, and a larger one changes nothing. -/
theorem followOr_eq_follow {budget : Nat} (h : followBudget task.document ≤ budget) :
    followOr task gone budget = follow task (followBudget task.document) := by
  funext r s
  exact (run_follow_eq gone _ _ (needed_le_followBudget _ s r) ((needed_le_followBudget _ s r).trans h)).symm

theorem followStep_follow :
    followStep task (follow task (followBudget task.document)) = follow task (followBudget task.document) := by
  calc followStep task (follow task (followBudget task.document))
      = followOr task (fun r => throw (.danglingReference r)) (followBudget task.document + 1) := by
        rw [followOr, ← follow_eq_followOr]
    _ = follow task (followBudget task.document) := followOr_eq_follow _ (Nat.le_succ _)

end Budget

end Typeforge.Validator
