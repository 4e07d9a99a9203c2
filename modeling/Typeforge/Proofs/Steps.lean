import Typeforge.Failure
import Mathlib.Data.List.Basic
import Mathlib.Data.List.Forall2

/-!
# Steps that may fail

What steps come to that pass on a state and may fail on the way. `Ends m s r t` says that the steps `m`,
begun in `s`, give `r` and leave `t`; every way of putting steps together is taken apart by one lemma.
The rest is about steps that are repeated for the items of a list:

* `Keeps`: a relation that each step has between its two states, the whole has;
* `Fails`: what is true of the failure of each step, is true of that of the whole;
* `Gives`: what is true of the answer, wherever the steps begin;
* `ends_mapM_ok`: an invariant, and what is true of each answer, at the end of a run without a failure;
* `ends_mapM_error`: the step that fails, and the run without a failure before it;
* `run_mapM_congr`: steps that do the same wherever the run comes are interchangeable;
* `foldlM_ok`, `foldlM_error`: the same of a fold whose steps may fail and pass on no state but what they give;
* `foldlM_error_iff`, `mapM_error_iff`: the first step of such a run that fails.
-/

namespace Typeforge

variable {σ α β γ : Type}

/-- Steps on a state that may fail. -/
abbrev Steps (σ α : Type) := ExceptT Failure (StateM σ) α

/-- Begun in `s`, the steps give `r` and leave `t`. -/
def Ends (m : Steps σ α) (s : σ) (r : Except Failure α) (t : σ) : Prop := m.run.run s = (r, t)

/-! ### How single steps end -/

section Single

variable {s t : σ}

theorem ends_pure {a : α} {r : Except Failure α} : Ends (pure a) s r t ↔ r = .ok a ∧ t = s := by
  constructor
  · intro h
    exact ⟨(Prod.mk.inj h).1.symm, (Prod.mk.inj h).2.symm⟩
  · rintro ⟨rfl, rfl⟩
    rfl

theorem ends_throw {e : Failure} {r : Except Failure α} : Ends (throw e) s r t ↔ r = .error e ∧ t = s := by
  constructor
  · intro h
    exact ⟨(Prod.mk.inj h).1.symm, (Prod.mk.inj h).2.symm⟩
  · rintro ⟨rfl, rfl⟩
    rfl

theorem ends_modifyGet {f : σ → α × σ} {r : Except Failure α} :
    Ends (modifyGet f : Steps σ α) s r t ↔ r = .ok (f s).1 ∧ t = (f s).2 := by
  constructor
  · intro h
    exact ⟨(Prod.mk.inj h).1.symm, (Prod.mk.inj h).2.symm⟩
  · rintro ⟨rfl, rfl⟩
    rfl

theorem ends_modify {f : σ → σ} {r : Except Failure PUnit} :
    Ends (modify f : Steps σ PUnit) s r t ↔ r = .ok ⟨⟩ ∧ t = f s := by
  constructor
  · intro h
    exact ⟨(Prod.mk.inj h).1.symm, (Prod.mk.inj h).2.symm⟩
  · rintro ⟨rfl, rfl⟩
    rfl

theorem run_bind (m : Steps σ α) (f : α → Steps σ β) (s : σ) :
    (m >>= f).run.run s = match m.run.run s with
      | (.ok a, u) => (f a).run.run u
      | (.error e, u) => (.error e, u) := by
  show (m >>= f).run.run s = _
  simp only [ExceptT.run_bind, StateT.run_bind]
  generalize m.run.run s = p
  obtain ⟨_ | a, u⟩ := p <;> rfl

theorem run_get (s : σ) : (get : Steps σ σ).run.run s = (.ok s, s) := rfl

/-- Steps in turn: the first fail, or the others go on with what they give. -/
theorem ends_bind {m : Steps σ α} {f : α → Steps σ β} {r : Except Failure β} :
    Ends (m >>= f) s r t ↔
      (∃ a u, Ends m s (.ok a) u ∧ Ends (f a) u r t) ∨ ∃ e, Ends m s (.error e) t ∧ r = .error e := by
  unfold Ends
  rw [run_bind]
  generalize m.run.run s = p
  obtain ⟨e | a, u⟩ := p
  · constructor
    · rintro h
      obtain ⟨rfl, rfl⟩ := Prod.mk.inj h
      exact .inr ⟨e, rfl, rfl⟩
    · rintro (⟨a, u', h, -⟩ | ⟨e', h, rfl⟩)
      · cases h
      · cases h; rfl
  · constructor
    · intro h
      exact .inl ⟨a, u, rfl, h⟩
    · rintro (⟨a', u', h, h'⟩ | ⟨e', h, -⟩)
      · cases h; exact h'
      · cases h

theorem ends_bind_ok {m : Steps σ α} {f : α → Steps σ β} {b : β} :
    Ends (m >>= f) s (.ok b) t ↔ ∃ a u, Ends m s (.ok a) u ∧ Ends (f a) u (.ok b) t := by
  rw [ends_bind]
  constructor
  · rintro (h | ⟨e, -, h⟩)
    · exact h
    · cases h
  · exact .inl

theorem ends_bind_error {m : Steps σ α} {f : α → Steps σ β} {e : Failure} :
    Ends (m >>= f) s (.error e) t ↔
      (∃ a u, Ends m s (.ok a) u ∧ Ends (f a) u (.error e) t) ∨ Ends m s (.error e) t := by
  rw [ends_bind]
  constructor
  · rintro (h | ⟨e', h, he⟩)
    · exact .inl h
    · cases he; exact .inr h
  · exact .imp id fun h => ⟨e, h, rfl⟩

end Single

/-! ### A relation between the states before and after -/

/-- Whatever the steps come to, the relation holds between the state before and the state after. -/
def Keeps (R : σ → σ → Prop) (m : Steps σ α) : Prop := ∀ s r t, Ends m s r t → R s t

section Keeps

variable {R : σ → σ → Prop}

theorem Keeps.pure (refl : ∀ s, R s s) (a : α) : Keeps R (pure a : Steps σ α) := by
  intro s r t h
  rw [(ends_pure.1 h).2]
  exact refl s

theorem Keeps.bind (trans : ∀ s t u, R s t → R t u → R s u) {m : Steps σ α} {f : α → Steps σ β}
    (hm : Keeps R m) (hf : ∀ a, Keeps R (f a)) : Keeps R (m >>= f) := by
  intro s r t h
  rcases ends_bind.1 h with ⟨a, u, h1, h2⟩ | ⟨e, h1, -⟩
  · exact trans _ _ _ (hm _ _ _ h1) (hf a _ _ _ h2)
  · exact hm _ _ _ h1

theorem Keeps.mapM (refl : ∀ s, R s s) (trans : ∀ s t u, R s t → R t u → R s u) {f : α → Steps σ β}
    {as : List α} (hf : ∀ a ∈ as, Keeps R (f a)) : Keeps R (as.mapM f) := by
  induction as with
  | nil => exact Keeps.pure refl _
  | cons a as ih =>
    rw [List.mapM_cons]
    exact Keeps.bind trans (hf a List.mem_cons_self) fun b =>
      Keeps.bind trans (ih fun a' h => hf a' (List.mem_cons_of_mem _ h)) fun bs => Keeps.pure refl _

theorem Keeps.forM (refl : ∀ s, R s s) (trans : ∀ s t u, R s t → R t u → R s u) {f : α → Steps σ PUnit}
    {as : List α} (hf : ∀ a ∈ as, Keeps R (f a)) : Keeps R (as.forM f) := by
  induction as with
  | nil => exact Keeps.pure refl _
  | cons a as ih =>
    exact Keeps.bind trans (hf a List.mem_cons_self) fun _ => ih fun a' h => hf a' (List.mem_cons_of_mem _ h)

end Keeps

/-! ### Failures -/

/-- Wherever the steps begin, `P` is true of what they fail with. -/
def Fails (P : Failure → Prop) (m : Steps σ α) : Prop := ∀ s e t, Ends m s (.error e) t → P e

section Fails

variable {P : Failure → Prop}

theorem Fails.pure (a : α) : Fails P (pure a : Steps σ α) := by
  intro s e t h
  cases (ends_pure.1 h).1

theorem Fails.bind {m : Steps σ α} {f : α → Steps σ β} (hm : Fails P m) (hf : ∀ a, Fails P (f a)) :
    Fails P (m >>= f) := by
  intro s e t h
  rcases ends_bind_error.1 h with ⟨a, u, -, h⟩ | h
  · exact hf a _ _ _ h
  · exact hm _ _ _ h

theorem Fails.mapM {f : α → Steps σ β} {as : List α} (hf : ∀ a ∈ as, Fails P (f a)) : Fails P (as.mapM f) := by
  induction as with
  | nil => exact Fails.pure _
  | cons a as ih =>
    rw [List.mapM_cons]
    exact Fails.bind (hf a List.mem_cons_self) fun b =>
      Fails.bind (ih fun a' h => hf a' (List.mem_cons_of_mem _ h)) fun bs => Fails.pure _

theorem Fails.forM {f : α → Steps σ PUnit} {as : List α} (hf : ∀ a ∈ as, Fails P (f a)) : Fails P (as.forM f) := by
  induction as with
  | nil => exact Fails.pure _
  | cons a as ih =>
    exact Fails.bind (hf a List.mem_cons_self) fun _ => ih fun a' h => hf a' (List.mem_cons_of_mem _ h)

end Fails

/-! ### Answers -/

/-- Wherever the steps begin, `P` is true of what they give. -/
def Gives (P : α → Prop) (m : Steps σ α) : Prop := ∀ s a t, Ends m s (.ok a) t → P a

section Gives

variable {P : α → Prop} {Q : β → Prop}

theorem Gives.pure {a : α} (h : P a) : Gives P (pure a : Steps σ α) := by
  intro s b t hends
  cases (ends_pure.1 hends).1
  exact h

theorem Gives.bind {m : Steps σ α} {f : α → Steps σ β} (hm : Gives P m) (hf : ∀ a, P a → Gives Q (f a)) :
    Gives Q (m >>= f) := by
  intro s b t hends
  obtain ⟨a, u, h1, h2⟩ := ends_bind_ok.1 hends
  exact hf a (hm _ _ _ h1) _ _ _ h2

theorem Gives.map {m : Steps σ α} {f : α → β} (hm : Gives P m) (hf : ∀ a, P a → Q (f a)) : Gives Q (f <$> m) := by
  rw [map_eq_pure_bind]
  exact hm.bind fun a ha => .pure (hf a ha)

/-- Of some answer there may be nothing to be known. -/
theorem Gives.any (m : Steps σ α) : Gives (fun _ => True) m := fun _ _ _ _ => trivial

end Gives

/-! ### Steps for each item of a list -/

section Several

variable {R : σ → σ → Prop} {I : σ → Prop}

/-- **A run without a failure.** An invariant holds at its end, and so does for each item what is true of its
answer and stays true. -/
theorem ends_mapM_ok {f : α → Steps σ β} {P : σ → α → β → Prop} (trans : ∀ s t u, R s t → R t u → R s u)
    (refl : ∀ s, R s s) (stays : ∀ s t a b, I t → R s t → P s a b → P t a b) {as : List α}
    (step : ∀ a ∈ as, ∀ s b t, I s → Ends (f a) s (.ok b) t → I t ∧ R s t ∧ P t a b)
    {s t : σ} {bs : List β} (hs : I s) (h : Ends (as.mapM f) s (.ok bs) t) :
    I t ∧ R s t ∧ List.Forall₂ (P t) as bs := by
  induction as generalizing s bs with
  | nil =>
    obtain ⟨hb, rfl⟩ := ends_pure.1 h
    cases hb
    exact ⟨hs, refl _, .nil⟩
  | cons a as ih =>
    rw [List.mapM_cons, ends_bind_ok] at h
    obtain ⟨b, u, h1, h⟩ := h
    rw [ends_bind_ok] at h
    obtain ⟨bs', t', h2, h3⟩ := h
    obtain ⟨hb, rfl⟩ := ends_pure.1 h3
    cases hb
    obtain ⟨hu, r1, p1⟩ := step a List.mem_cons_self s b u hs h1
    obtain ⟨ht, r2, p2⟩ := ih (fun a' ha' => step a' (List.mem_cons_of_mem _ ha')) hu h2
    exact ⟨ht, trans _ _ _ r1 r2, .cons (stays _ _ _ _ ht r2 p1) p2⟩

theorem ends_forM_ok {f : α → Steps σ PUnit} {P : σ → α → Prop} (trans : ∀ s t u, R s t → R t u → R s u)
    (refl : ∀ s, R s s) (stays : ∀ s t a, I t → R s t → P s a → P t a) {as : List α}
    (step : ∀ a ∈ as, ∀ s t, I s → Ends (f a) s (.ok ⟨⟩) t → I t ∧ R s t ∧ P t a)
    {s t : σ} (hs : I s) (h : Ends (as.forM f) s (.ok ⟨⟩) t) : I t ∧ R s t ∧ ∀ a ∈ as, P t a := by
  induction as generalizing s with
  | nil =>
    obtain ⟨-, rfl⟩ := ends_pure.1 h
    exact ⟨hs, refl _, by simp⟩
  | cons a as ih =>
    obtain ⟨⟨⟩, u, h1, h2⟩ := ends_bind_ok.1 h
    obtain ⟨hu, r1, p1⟩ := step a List.mem_cons_self s u hs h1
    obtain ⟨ht, r2, p2⟩ := ih (fun a' ha' => step a' (List.mem_cons_of_mem _ ha')) hu h2
    refine ⟨ht, trans _ _ _ r1 r2, fun a' ha' => ?_⟩
    rcases List.mem_cons.1 ha' with rfl | ha'
    · exact stays _ _ _ ht r2 p1
    · exact p2 a' ha'

theorem ends_forM_append_ok {f : α → Steps σ PUnit} {as bs : List α} {s t : σ}
    (h : Ends ((as ++ bs).forM f) s (.ok ⟨⟩) t) :
    ∃ u, Ends (as.forM f) s (.ok ⟨⟩) u ∧ Ends (bs.forM f) u (.ok ⟨⟩) t := by
  rw [List.forM_eq_forM, List.forM_append, ends_bind_ok] at h
  obtain ⟨⟨⟩, u, h1, h2⟩ := h
  exact ⟨u, h1, h2⟩

/-- **Where a run fails.** The steps for one of the items fail, after those for all before it have not. -/
theorem ends_forM_error {f : α → Steps σ PUnit} {as : List α} {e : Failure} {s t : σ}
    (h : Ends (as.forM f) s (.error e) t) : ∃ before a after u, as = before ++ a :: after ∧
      Ends (before.forM f) s (.ok ⟨⟩) u ∧ Ends (f a) u (.error e) t := by
  induction as generalizing s with
  | nil => cases (ends_pure.1 h).1
  | cons a as ih =>
    rcases ends_bind_error.1 h with ⟨⟨⟩, v, h1, h2⟩ | h1
    · obtain ⟨before, a', after, u, rfl, hbefore, ha'⟩ := ih h2
      exact ⟨a :: before, a', after, u, rfl, ends_bind_ok.2 ⟨⟨⟩, v, h1, hbefore⟩, ha'⟩
    · exact ⟨[], a, as, s, rfl, ends_pure.2 ⟨rfl, rfl⟩, h1⟩

theorem ends_mapM_error {f : α → Steps σ β} {as : List α} {e : Failure} {s t : σ}
    (h : Ends (as.mapM f) s (.error e) t) : ∃ before a after bs u, as = before ++ a :: after ∧
      Ends (before.mapM f) s (.ok bs) u ∧ Ends (f a) u (.error e) t := by
  induction as generalizing s with
  | nil => cases (ends_pure.1 h).1
  | cons a as ih =>
    rw [List.mapM_cons] at h
    rcases ends_bind_error.1 h with ⟨b, v, h1, h2⟩ | h1
    · rcases ends_bind_error.1 h2 with ⟨bs, w, -, h3⟩ | h3
      · cases (ends_pure.1 h3).1
      · obtain ⟨before, a', after, bs, u, rfl, hbefore, ha'⟩ := ih h3
        refine ⟨a :: before, a', after, b :: bs, u, rfl, ?_, ha'⟩
        rw [List.mapM_cons]
        exact ends_bind_ok.2 ⟨b, v, h1, ends_bind_ok.2 ⟨bs, u, hbefore, ends_pure.2 ⟨rfl, rfl⟩⟩⟩
    · exact ⟨[], a, as, [], s, rfl, ends_pure.2 ⟨rfl, rfl⟩, h1⟩

/-- Two ways to go on may be exchanged when they agree wherever the first steps lead. -/
theorem run_bind_congr {m m' : Steps σ α} {f f' : α → Steps σ β} {s : σ} (hm : m.run.run s = m'.run.run s)
    (hf : ∀ a t, Ends m s (.ok a) t → (f a).run.run t = (f' a).run.run t) :
    (m >>= f).run.run s = (m' >>= f').run.run s := by
  rw [run_bind, run_bind, ← hm]
  rcases h : m.run.run s with ⟨e | a, t⟩
  · rfl
  · exact hf a t h

theorem run_mapM_congr {f f' : α → Steps σ β} {as : List α}
    (same : ∀ a ∈ as, ∀ s, I s → (f a).run.run s = (f' a).run.run s)
    (stays : ∀ a ∈ as, ∀ s b t, I s → Ends (f a) s (.ok b) t → I t) {s : σ} (hs : I s) :
    (as.mapM f).run.run s = (as.mapM f').run.run s := by
  induction as generalizing s with
  | nil => rfl
  | cons a as ih =>
    rw [List.mapM_cons, List.mapM_cons]
    refine run_bind_congr (same a List.mem_cons_self s hs) fun b t h => ?_
    have ht := stays a List.mem_cons_self s b t hs h
    refine run_bind_congr ?_ fun bs u _ => rfl
    exact ih (fun a' ha' => same a' (List.mem_cons_of_mem _ ha'))
      (fun a' ha' => stays a' (List.mem_cons_of_mem _ ha')) ht

end Several

/-! ### Answers in one list -/

section Answers

variable {m : Type → Type} [Monad m] [LawfulMonad m]

theorem mapM_bind_congr {f : α → m β} {as : List α} {g h : List β → m γ}
    (same : ∀ bs, bs.length = as.length → g bs = h bs) : as.mapM f >>= g = as.mapM f >>= h := by
  induction as generalizing g h with
  | nil => simp [same [] rfl]
  | cons a as ih =>
    simp only [List.mapM_cons, bind_assoc, pure_bind]
    refine bind_congr fun b => ih fun bs hbs => same (b :: bs) ?_
    simp [hbs]

/-- A run over two lists in turn, whose answers are told apart by their number. -/
theorem mapM_append_bind (f : α → m β) (as as' : List α) (g : List β → List β → m γ) :
    ((as ++ as').mapM f >>= fun bs => g (bs.take as.length) (bs.drop as.length))
      = as.mapM f >>= fun bs => as'.mapM f >>= fun bs' => g bs bs' := by
  rw [List.mapM_append]
  simp only [bind_assoc, pure_bind]
  refine mapM_bind_congr fun bs hbs => bind_congr fun bs' => ?_
  rw [List.take_left' hbs, List.drop_left' hbs]

theorem exists_answer {R : α → β → Prop} {as : List α} {bs : List β} (h : List.Forall₂ R as bs) {a : α} (ha : a ∈ as) :
    ∃ b ∈ bs, R a b := by
  obtain ⟨i, hi, rfl⟩ := List.getElem_of_mem ha
  exact ⟨_, List.getElem_mem _, h.get hi (h.length_eq ▸ hi)⟩

theorem exists_answered {R : α → β → Prop} {as : List α} {bs : List β} (h : List.Forall₂ R as bs) {b : β}
    (hb : b ∈ bs) : ∃ a ∈ as, R a b := by
  obtain ⟨i, hi, rfl⟩ := List.getElem_of_mem hb
  exact ⟨_, List.getElem_mem _, h.get (h.length_eq ▸ hi) hi⟩

end Answers

/-! ### Folds that may fail -/

section Fold

variable {ε : Type} {f : β → α → Except ε β} {as : List α} {b c : β}

theorem bind_ok_iff {m : Except ε α} {g : α → Except ε β} : m >>= g = .ok b ↔ ∃ a, m = .ok a ∧ g a = .ok b := by
  cases m with
  | error e => exact iff_of_false nofun (by simp)
  | ok a => exact ⟨fun h => ⟨a, rfl, h⟩, fun ⟨_, ha, h⟩ => Except.ok.inj ha ▸ h⟩

theorem bind_error_iff {m : Except ε α} {g : α → Except ε β} {e : ε} :
    m >>= g = .error e ↔ m = .error e ∨ ∃ a, m = .ok a ∧ g a = .error e := by
  cases m with
  | error e' =>
    constructor
    · intro h
      cases h
      exact .inl rfl
    · rintro (h | ⟨a, ha, -⟩)
      · cases h
        rfl
      · cases ha
  | ok a => exact ⟨fun h => .inr ⟨a, rfl, h⟩, fun h => h.elim nofun fun ⟨_, ha, h⟩ => Except.ok.inj ha ▸ h⟩

theorem foldlM_cons_ok {a : α} (h : (a :: as).foldlM f b = .ok c) : ∃ d, f b a = .ok d ∧ as.foldlM f d = .ok c := by
  rw [List.foldlM_cons] at h
  cases hd : f b a with
  | error e => rw [hd] at h; cases h
  | ok d =>
    rw [hd] at h
    exact ⟨d, rfl, h⟩

/-- **A fold without a failure.** An invariant holds at its end, a relation that each step has between what it is
given and what it gives holds for the whole, and so does for each item what is true after its step and stays
true. -/
theorem foldlM_ok {I : β → Prop} {R : β → β → Prop} {P : β → α → Prop} (refl : ∀ b, R b b)
    (trans : ∀ b c d, R b c → R c d → R b d) (stays : ∀ b c a, R b c → P b a → P c a)
    (step : ∀ a ∈ as, ∀ b c, I b → f b a = .ok c → I c ∧ R b c ∧ P c a) (hb : I b)
    (h : as.foldlM f b = .ok c) : I c ∧ R b c ∧ ∀ a ∈ as, P c a := by
  induction as generalizing b with
  | nil =>
    cases h
    exact ⟨hb, refl _, by simp⟩
  | cons a as ih =>
    obtain ⟨d, hd, hc⟩ := foldlM_cons_ok h
    obtain ⟨hid, r1, p1⟩ := step a List.mem_cons_self b d hb hd
    obtain ⟨hic, r2, p2⟩ := ih (fun a' ha' => step a' (List.mem_cons_of_mem _ ha')) hid hc
    refine ⟨hic, trans _ _ _ r1 r2, fun a' ha' => ?_⟩
    rcases List.mem_cons.1 ha' with rfl | ha'
    · exact stays _ _ _ r2 p1
    · exact p2 a' ha'

theorem foldlM_error {P : ε → Prop} {e : ε} (step : ∀ a ∈ as, ∀ b e, f b a = .error e → P e)
    (h : as.foldlM f b = .error e) : P e := by
  induction as generalizing b with
  | nil => cases h
  | cons a as ih =>
    rw [List.foldlM_cons] at h
    cases hd : f b a with
    | error e' =>
      rw [hd] at h
      cases h
      exact step a List.mem_cons_self b _ hd
    | ok d =>
      rw [hd] at h
      exact ih (fun a' ha' => step a' (List.mem_cons_of_mem _ ha')) h

/-- **Where a fold fails.** It is the first step that does, after those for all items before it have not. -/
theorem foldlM_error_iff {e : ε} : as.foldlM f b = .error e ↔
    ∃ before a after c, as = before ++ a :: after ∧ before.foldlM f b = .ok c ∧ f c a = .error e := by
  constructor
  · intro h
    induction as generalizing b with
    | nil => cases h
    | cons a as ih =>
      rw [List.foldlM_cons] at h
      rcases bind_error_iff.1 h with hfails | ⟨d, hd, hrest⟩
      · exact ⟨[], a, as, b, rfl, rfl, hfails⟩
      · obtain ⟨before, a', after, c, rfl, hbefore, hfails⟩ := ih hrest
        refine ⟨a :: before, a', after, c, rfl, ?_, hfails⟩
        rw [List.foldlM_cons]
        exact bind_ok_iff.2 ⟨d, hd, hbefore⟩
  · rintro ⟨before, a, after, c, rfl, hbefore, hfails⟩
    rw [List.foldlM_append]
    refine bind_error_iff.2 (.inr ⟨c, hbefore, ?_⟩)
    rw [List.foldlM_cons]
    exact bind_error_iff.2 (.inl hfails)

theorem foldlM_congr_mem {f' : β → α → Except ε β} (same : ∀ a ∈ as, ∀ b, f b a = f' b a) :
    as.foldlM f b = as.foldlM f' b := by
  induction as generalizing b with
  | nil => rfl
  | cons a as ih =>
    rw [List.foldlM_cons, List.foldlM_cons, same a List.mem_cons_self]
    exact bind_congr fun d => ih fun a' ha' => same a' (List.mem_cons_of_mem _ ha')

end Fold

/-! ### Answers that may be missing -/

section Items

variable {ε : Type} {f : α → Except ε β} {as : List α}

theorem mapM_ok_iff {bs : List β} : as.mapM f = .ok bs ↔ List.Forall₂ (fun a b => f a = .ok b) as bs := by
  induction as generalizing bs with
  | nil =>
    rw [List.forall₂_nil_left_iff]
    exact ⟨fun h => (Except.ok.inj h).symm, fun h => h ▸ rfl⟩
  | cons a as ih =>
    rw [List.mapM_cons, List.forall₂_cons_left_iff]
    constructor
    · intro h
      obtain ⟨b, hb, h⟩ := bind_ok_iff.1 h
      obtain ⟨bs', hbs, h⟩ := bind_ok_iff.1 h
      cases h
      exact ⟨b, bs', hb, ih.1 hbs, rfl⟩
    · rintro ⟨b, bs', hb, hbs, rfl⟩
      exact bind_ok_iff.2 ⟨b, hb, bind_ok_iff.2 ⟨bs', ih.2 hbs, rfl⟩⟩

theorem mapM_error_iff {e : ε} : as.mapM f = .error e ↔
    ∃ before a after bs, as = before ++ a :: after ∧ before.mapM f = .ok bs ∧ f a = .error e := by
  constructor
  · intro h
    induction as with
    | nil => cases h
    | cons a as ih =>
      rw [List.mapM_cons] at h
      rcases bind_error_iff.1 h with hfails | ⟨b, hb, hrest⟩
      · exact ⟨[], a, as, [], rfl, rfl, hfails⟩
      · obtain ⟨before, a', after, bs, rfl, hbefore, hfails⟩ :=
          ih ((bind_error_iff.1 hrest).resolve_right (by rintro ⟨bs, -, h⟩; cases h))
        refine ⟨a :: before, a', after, b :: bs, rfl, ?_, hfails⟩
        rw [List.mapM_cons]
        exact bind_ok_iff.2 ⟨b, hb, bind_ok_iff.2 ⟨bs, hbefore, rfl⟩⟩
  · rintro ⟨before, a, after, bs, rfl, hbefore, hfails⟩
    rw [List.mapM_append, List.mapM_cons, hbefore]
    exact bind_error_iff.2 (.inr ⟨bs, rfl, bind_error_iff.2 (.inl (bind_error_iff.2 (.inl hfails)))⟩)

end Items

end Typeforge
