import Typeforge.Proofs.Steps

/-!
# Two runs side by side

Two runs are alike under a relation between their states when, begun in states that are related, they give the same
and leave states that are related. It is enough to say so of single steps: whatever is put together from steps that
are alike is alike.
-/

namespace Typeforge

variable {σ τ α β : Type}

/-- Begun in states that are related, both steps give the same, be it an answer or a failure, and leave states that
are related. -/
def Alike (R : σ → τ → Prop) (m : Steps σ α) (m' : Steps τ α) : Prop :=
  ∀ s s', R s s' → (m.run.run s).1 = (m'.run.run s').1 ∧ R (m.run.run s).2 (m'.run.run s').2

section Alike

variable {R : σ → τ → Prop}

theorem Alike.pure (a : α) : Alike R (pure a) (pure a) := fun _ _ h => ⟨rfl, h⟩

theorem Alike.throw (e : Failure) : Alike R (throw e : Steps σ α) (throw e) := fun _ _ h => ⟨rfl, h⟩

theorem Alike.modify {f : σ → σ} {g : τ → τ} (h : ∀ s s', R s s' → R (f s) (g s')) :
    Alike R (modify f) (modify g) := fun s s' hs => ⟨rfl, h s s' hs⟩

theorem Alike.modifyGet {f : σ → α × σ} {g : τ → α × τ}
    (h : ∀ s s', R s s' → (f s).1 = (g s').1 ∧ R (f s).2 (g s').2) :
    Alike R (modifyGet f : Steps σ α) (modifyGet g) := by
  intro s s' hs
  exact ⟨congrArg Except.ok (h s s' hs).1, (h s s' hs).2⟩

theorem Alike.ends {m : Steps σ α} {m' : Steps τ α} (h : Alike R m m') {s : σ} {s' : τ} (hs : R s s') :
    ∃ r t t', Ends m s r t ∧ Ends m' s' r t' ∧ R t t' :=
  ⟨_, _, _, rfl, Prod.ext (h s s' hs).1.symm rfl, (h s s' hs).2⟩

theorem Alike.bind {m : Steps σ α} {m' : Steps τ α} {f : α → Steps σ β} {f' : α → Steps τ β} (hm : Alike R m m')
    (hf : ∀ a, Alike R (f a) (f' a)) : Alike R (m >>= f) (m' >>= f') := by
  intro s s' hs
  obtain ⟨r, t, t', h, h', ht⟩ := hm.ends hs
  rw [run_bind, run_bind, h, h']
  cases r with
  | error e => exact ⟨rfl, ht⟩
  | ok a => exact hf a t t' ht

theorem Alike.mapM {f : α → Steps σ β} {f' : α → Steps τ β} {as : List α} (hf : ∀ a ∈ as, Alike R (f a) (f' a)) :
    Alike R (as.mapM f) (as.mapM f') := by
  induction as with
  | nil => exact Alike.pure _
  | cons a as ih =>
    rw [List.mapM_cons, List.mapM_cons]
    exact Alike.bind (hf a List.mem_cons_self) fun b =>
      Alike.bind (ih fun a' h => hf a' (List.mem_cons_of_mem _ h)) fun bs => Alike.pure _

theorem Alike.forM {f : α → Steps σ PUnit} {f' : α → Steps τ PUnit} {as : List α}
    (hf : ∀ a ∈ as, Alike R (f a) (f' a)) : Alike R (as.forM f) (as.forM f') := by
  induction as with
  | nil => exact Alike.pure _
  | cons a as ih =>
    exact Alike.bind (hf a List.mem_cons_self) fun _ => ih fun a' h => hf a' (List.mem_cons_of_mem _ h)

end Alike

end Typeforge
