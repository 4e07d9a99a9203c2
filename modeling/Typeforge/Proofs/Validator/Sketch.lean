import Typeforge.Proofs.Steps
import Typeforge.Validator.Sketch
import Mathlib.Data.List.Forall2

/-!
# Walks over sketches

* `collect` collects something from a sketch, from left to right. `holes` is what the sketch points at, and `uses` what
  it points at where it is written; what an array drops is looked at and not written.
* `Meets` says that a condition holds everywhere in a sketch.
* `fill` puts answers in the places of the holes. Going through a sketch is going through its holes and then filling
  them (`traverse_eq`), so what is to be said about a run over a sketch is said about a run over a list.
-/

namespace Typeforge.Validator.Sketch

open Code

variable {ρ σ α : Type}

/-- Induction on sketches, in which a list or an object stands for the sketches in it. -/
@[elab_as_elim]
theorem induction {motive : Sketch ρ → Prop} (closed : ∀ e, motive (.closed e)) (use : ∀ r, motive (.use r))
    (make : ∀ function args, (∀ s ∈ args, motive s) → motive (.make function args))
    (refine : ∀ function args, (∀ s ∈ args, motive s) → motive (.refine function args))
    (list : ∀ items, (∀ s ∈ items, motive s) → motive (.list items))
    (object : ∀ fields, (∀ f ∈ fields, motive f.2) → motive (.object fields))
    (dropping : ∀ looked kept, (∀ s ∈ looked, motive s) → motive (.dropping looked kept)) (s : Sketch ρ) : motive s :=
  match s with
  | .closed e => closed e
  | .use r => use r
  | .make function args => make function args fun s _ => induction closed use make refine list object dropping s
  | .refine function args => refine function args fun s _ => induction closed use make refine list object dropping s
  | .list items => list items fun s _ => induction closed use make refine list object dropping s
  | .object fields => object fields fun (key, s) hmem =>
    have _hsize : 1 + sizeOf key + sizeOf s < sizeOf fields := List.sizeOf_lt_of_mem hmem
    induction closed use make refine list object dropping s
  | .dropping looked kept =>
    dropping looked kept fun s _ => induction closed use make refine list object dropping s

theorem toExprs_eq (use : ρ → Expr) (ss : List (Sketch ρ)) : toExprs use ss = ss.map (toExpr use) := by
  induction ss with
  | nil => rfl
  | cons s ss ih => rw [toExprs, ih, List.map_cons]

theorem toProperties_eq (use : ρ → Expr) (fs : List (Key × Sketch ρ)) :
    toProperties use fs = fs.map fun f => (f.1, f.2.toExpr use) := by
  induction fs with
  | nil => rfl
  | cons f fs ih => rw [toProperties, ih, List.map_cons]

/-! ### What is collected -/

/-- What is collected from the parts of a sketch. -/
structure Collection (ρ α : Type) where
  closed : Expr → List α := fun _ => []
  use : ρ → List α := fun _ => []
  /-- What an array drops is collected from as well. -/
  looked : Bool := false

section Collect

variable (C : Collection ρ α)

mutual

/-- What is collected from the sketch, from left to right. -/
def collect : Sketch ρ → List α
  | .closed e => C.closed e
  | .use r => C.use r
  | .make _ args => collectAll args
  | .refine _ args => collectAll args
  | .list items => collectAll items
  | .object fields => collectFields fields
  | .dropping looked kept => (if C.looked then collectAll looked else []) ++ C.closed kept

def collectAll : List (Sketch ρ) → List α
  | [] => []
  | s :: ss => collect s ++ collectAll ss

def collectFields : List (Key × Sketch ρ) → List α
  | [] => []
  | (_, s) :: fs => collect s ++ collectFields fs

end

theorem collectAll_eq (ss : List (Sketch ρ)) : collectAll C ss = ss.flatMap (collect C) := by
  induction ss with
  | nil => rfl
  | cons s ss ih => rw [collectAll, ih, List.flatMap_cons]

theorem collectFields_eq (fs : List (Key × Sketch ρ)) : collectFields C fs = fs.flatMap fun f => collect C f.2 := by
  induction fs with
  | nil => rfl
  | cons f fs ih => rw [collectFields, ih, List.flatMap_cons]

variable {C}

theorem mem_collectAll {x : α} {ss : List (Sketch ρ)} : x ∈ collectAll C ss ↔ ∃ s ∈ ss, x ∈ collect C s := by
  rw [collectAll_eq, List.mem_flatMap]

theorem mem_collectFields {x : α} {fs : List (Key × Sketch ρ)} :
    x ∈ collectFields C fs ↔ ∃ f ∈ fs, x ∈ collect C f.2 := by
  rw [collectFields_eq, List.mem_flatMap]

theorem collect_pipe (h : C.closed unknown = []) (ss : List (Sketch ρ)) : collect C (pipe ss) = collectAll C ss := by
  match ss with
  | [] => exact h
  | [s] => simp [pipe, collectAll]
  | _ :: _ :: _ => rfl

end Collect

/-- What the sketch points at. -/
def holes (s : Sketch ρ) : List ρ := collect { use := fun r => [r], looked := true } s

def holesOf (ss : List (Sketch ρ)) : List ρ := collectAll { use := fun r => [r], looked := true } ss

def fieldHoles (fs : List (Key × Sketch ρ)) : List ρ := collectFields { use := fun r => [r], looked := true } fs

/-- What the sketch points at where it is written. -/
def uses (s : Sketch ρ) : List ρ := collect { use := fun r => [r] } s

def usesOf (ss : List (Sketch ρ)) : List ρ := collectAll { use := fun r => [r] } ss

def fieldUses (fs : List (Key × Sketch ρ)) : List ρ := collectFields { use := fun r => [r] } fs

theorem uses_pipe (ss : List (Sketch ρ)) : (pipe ss).uses = usesOf ss := collect_pipe rfl ss

/-! ### What holds everywhere -/

/-- What is asked of the parts of a sketch. -/
structure Condition (ρ : Type) where
  closed : Expr → Prop := fun _ => True
  use : ρ → Prop := fun _ => True
  make : Maker → List (Sketch ρ) → Prop := fun _ _ => True

section Meets

mutual

/-- The condition holds everywhere in the sketch. -/
def Meets (C : Condition ρ) : Sketch ρ → Prop
  | .closed e => C.closed e
  | .use r => C.use r
  | .make function args => C.make function args ∧ AllMeet C args
  | .refine _ args => AllMeet C args
  | .list items => AllMeet C items
  | .object fields => FieldsMeet C fields
  | .dropping looked kept => AllMeet C looked ∧ C.closed kept

def AllMeet (C : Condition ρ) : List (Sketch ρ) → Prop
  | [] => True
  | s :: ss => s.Meets C ∧ AllMeet C ss

def FieldsMeet (C : Condition ρ) : List (Key × Sketch ρ) → Prop
  | [] => True
  | (_, s) :: fs => s.Meets C ∧ FieldsMeet C fs

end

variable {C D : Condition ρ} {ss : List (Sketch ρ)} {fs : List (Key × Sketch ρ)}

theorem allMeet_iff : AllMeet C ss ↔ ∀ s ∈ ss, s.Meets C := by
  induction ss with
  | nil => simp [AllMeet]
  | cons s ss ih => simp [AllMeet, ih]

theorem fieldsMeet_iff : FieldsMeet C fs ↔ ∀ f ∈ fs, f.2.Meets C := by
  induction fs with
  | nil => simp [FieldsMeet]
  | cons f fs ih => simp [FieldsMeet, ih]

theorem AllMeet.imp (h : ∀ s ∈ ss, s.Meets C → s.Meets D) (hs : AllMeet C ss) : AllMeet D ss :=
  allMeet_iff.2 fun s hmem => h s hmem (allMeet_iff.1 hs s hmem)

theorem FieldsMeet.imp (h : ∀ f ∈ fs, f.2.Meets C → f.2.Meets D) (hs : FieldsMeet C fs) : FieldsMeet D fs :=
  fieldsMeet_iff.2 fun f hmem => h f hmem (fieldsMeet_iff.1 hs f hmem)

theorem meets_pipe (hunknown : C.closed unknown) (h : AllMeet C ss) : (pipe ss).Meets C := by
  match ss with
  | [] => exact hunknown
  | [s] => exact h.1
  | _ :: _ :: _ => exact h

/-- Of the two conditions the first one asks more. -/
structure Condition.Implies (C D : Condition ρ) : Prop where
  closed : ∀ e, C.closed e → D.closed e
  use : ∀ r, C.use r → D.use r
  make : ∀ function args, C.make function args → D.make function args

theorem meets_mono (h : C.Implies D) {s : Sketch ρ} (hs : s.Meets C) : s.Meets D := by
  induction s using Sketch.induction with
  | closed e => exact h.closed e hs
  | use r => exact h.use r hs
  | make function args ih => exact ⟨h.make function args hs.1, hs.2.imp ih⟩
  | refine function args ih => exact AllMeet.imp ih hs
  | list items ih => exact AllMeet.imp ih hs
  | object fields ih => exact FieldsMeet.imp ih hs
  | dropping looked kept ih => exact ⟨hs.1.imp ih, h.closed kept hs.2⟩

theorem allMeet_mono (h : C.Implies D) (hs : AllMeet C ss) : AllMeet D ss := hs.imp fun _ _ => meets_mono h

theorem use_of_mem_holes {r : ρ} {s : Sketch ρ} (hs : s.Meets C) (hr : r ∈ s.holes) : C.use r := by
  have inside {ss : List (Sketch ρ)} (ih : ∀ s ∈ ss, s.Meets C → r ∈ s.holes → C.use r) (hs : AllMeet C ss)
      (hr : r ∈ holesOf ss) : C.use r := by
    obtain ⟨s, hmem, hr⟩ := mem_collectAll.1 hr
    exact ih s hmem (allMeet_iff.1 hs s hmem) hr
  induction s using Sketch.induction with
  | closed e => exact absurd hr List.not_mem_nil
  | use r' => exact List.mem_singleton.1 hr ▸ hs
  | make function args ih => exact inside ih hs.2 hr
  | refine function args ih => exact inside ih hs hr
  | list items ih => exact inside ih hs hr
  | object fields ih =>
    obtain ⟨f, hmem, hr⟩ := mem_collectFields.1 hr
    exact ih f hmem (fieldsMeet_iff.1 hs f hmem) hr
  | dropping looked kept ih =>
    simp only [holes, collect, if_true, List.append_nil] at hr
    exact inside ih hs.1 hr

theorem use_of_mem_holesOf {r : ρ} (hs : AllMeet C ss) (hr : r ∈ holesOf ss) : C.use r := by
  obtain ⟨s, hmem, hr⟩ := mem_collectAll.1 hr
  exact use_of_mem_holes (allMeet_iff.1 hs s hmem) hr

end Meets

/-! ### Answers in the places of holes -/

mutual

/-- The sketch with the answers in the places of what it points at, from left to right. -/
def fill : Sketch ρ → List σ → Sketch σ
  | .closed e, _ => .closed e
  | .use _, b :: _ => .use b
  | .use _, [] => default
  | .make function args, bs => .make function (fillAll args bs)
  | .refine function args, bs => .refine function (fillAll args bs)
  | .list items, bs => .list (fillAll items bs)
  | .object fields, bs => .object (fillFields fields bs)
  | .dropping looked kept, bs => .dropping (fillAll looked bs) kept

def fillAll : List (Sketch ρ) → List σ → List (Sketch σ)
  | [], _ => []
  | s :: ss, bs => s.fill (bs.take s.holes.length) :: fillAll ss (bs.drop s.holes.length)

def fillFields : List (Key × Sketch ρ) → List σ → List (Key × Sketch σ)
  | [], _ => []
  | (k, s) :: fs, bs => (k, s.fill (bs.take s.holes.length)) :: fillFields fs (bs.drop s.holes.length)

end

theorem length_fillAll (ss : List (Sketch ρ)) (bs : List σ) : (fillAll ss bs).length = ss.length := by
  induction ss generalizing bs with
  | nil => rfl
  | cons s ss ih => simp [fillAll, ih]

section Traverse

variable {m : Type → Type} [Monad m] [LawfulMonad m]

variable (f : ρ → m σ)

mutual

/-- **Going through a sketch is going through its holes.** -/
theorem traverse_eq : ∀ s : Sketch ρ, traverse f s = s.holes.mapM f >>= fun bs => pure (s.fill bs)
  | .closed e => by simp [traverse, holes, collect, fill]
  | .use r => by
    simp only [traverse, holes, collect, List.mapM_cons, List.mapM_nil, bind_assoc, pure_bind]
    rfl
  | .make function args => by simp [traverse, holes, collect, fill, traverseList_eq args, holesOf]
  | .refine function args => by simp [traverse, holes, collect, fill, traverseList_eq args, holesOf]
  | .list items => by simp [traverse, holes, collect, fill, traverseList_eq items, holesOf]
  | .object fields => by simp [traverse, holes, collect, fill, traverseFields_eq fields, fieldHoles]
  | .dropping looked kept => by simp [traverse, holes, collect, fill, traverseList_eq looked, holesOf]

theorem traverseList_eq :
    ∀ ss : List (Sketch ρ), traverseList f ss = (holesOf ss).mapM f >>= fun bs => pure (fillAll ss bs)
  | [] => by simp [traverseList, holesOf, collectAll, fillAll]
  | s :: ss => by
    simp only [traverseList, fillAll, traverse_eq s, traverseList_eq ss, bind_assoc, pure_bind]
    exact (mapM_append_bind f _ _ fun bs bs' => pure (s.fill bs :: fillAll ss bs')).symm

theorem traverseFields_eq :
    ∀ fs : List (Key × Sketch ρ), traverseFields f fs = (fieldHoles fs).mapM f >>= fun bs => pure (fillFields fs bs)
  | [] => by simp [traverseFields, fieldHoles, collectFields, fillFields]
  | (k, s) :: fs => by
    simp only [traverseFields, fillFields, traverse_eq s, traverseFields_eq fs, bind_assoc, pure_bind]
    exact (mapM_append_bind f _ _ fun bs bs' => pure ((k, s.fill bs) :: fillFields fs bs')).symm

end

end Traverse

mutual

theorem uses_fill {u : σ} : ∀ (s : Sketch ρ) (bs : List σ), u ∈ (s.fill bs).uses → u ∈ bs
  | .closed _, _, h => absurd h List.not_mem_nil
  | .use _, [], h => absurd h List.not_mem_nil
  | .use _, _ :: _, h => List.mem_singleton.1 h ▸ List.mem_cons_self
  | .make _ args, bs, h => usesOf_fillAll args bs h
  | .refine _ args, bs, h => usesOf_fillAll args bs h
  | .list items, bs, h => usesOf_fillAll items bs h
  | .object fields, bs, h => fieldUses_fillFields fields bs h
  | .dropping _ _, _, h => absurd h List.not_mem_nil

theorem usesOf_fillAll {u : σ} : ∀ (ss : List (Sketch ρ)) (bs : List σ), u ∈ usesOf (fillAll ss bs) → u ∈ bs
  | [], _, h => absurd h List.not_mem_nil
  | s :: ss, bs, h => by
    rcases List.mem_append.1 h with h | h
    · exact List.mem_of_mem_take (uses_fill s _ h)
    · exact List.mem_of_mem_drop (usesOf_fillAll ss _ h)

theorem fieldUses_fillFields {u : σ} :
    ∀ (fs : List (Key × Sketch ρ)) (bs : List σ), u ∈ fieldUses (fillFields fs bs) → u ∈ bs
  | [], _, h => absurd h List.not_mem_nil
  | (_, s) :: fs, bs, h => by
    rcases List.mem_append.1 h with h | h
    · exact List.mem_of_mem_take (uses_fill s _ h)
    · exact List.mem_of_mem_drop (fieldUses_fillFields fs _ h)

end

mutual

/-- What is collected from the expressions of a sketch is there before it is filled. -/
theorem collect_fill {closed : Expr → List α} (hunknown : closed unknown = []) :
    ∀ (s : Sketch ρ) (bs : List σ), collect { closed } (s.fill bs) = collect { closed } s
  | .closed _, _ => rfl
  | .use _, [] => hunknown
  | .use _, _ :: _ => rfl
  | .make _ args, bs => collectAll_fillAll hunknown args bs
  | .refine _ args, bs => collectAll_fillAll hunknown args bs
  | .list items, bs => collectAll_fillAll hunknown items bs
  | .object fields, bs => collectFields_fillFields hunknown fields bs
  | .dropping _ _, _ => rfl

theorem collectAll_fillAll {closed : Expr → List α} (hunknown : closed unknown = []) :
    ∀ (ss : List (Sketch ρ)) (bs : List σ), collectAll { closed } (fillAll ss bs) = collectAll { closed } ss
  | [], _ => rfl
  | s :: ss, _ => by rw [fillAll, collectAll, collectAll, collect_fill hunknown s, collectAll_fillAll hunknown ss]

theorem collectFields_fillFields {closed : Expr → List α} (hunknown : closed unknown = []) :
    ∀ (fs : List (Key × Sketch ρ)) (bs : List σ),
      collectFields { closed } (fillFields fs bs) = collectFields { closed } fs
  | [], _ => rfl
  | (_, s) :: fs, _ => by
    rw [fillFields, collectFields, collectFields, collect_fill hunknown s, collectFields_fillFields hunknown fs]

end

/-- A sketch with the first condition has the second one when it is filled, with anything. -/
structure Condition.FillsTo (C : Condition ρ) (D : Condition σ) : Prop where
  closed : ∀ e, C.closed e → D.closed e
  unknown : D.closed unknown
  use : ∀ u, D.use u
  make : ∀ function args bs, C.make function args → D.make function (fillAll args bs)

mutual

theorem meets_fill {C : Condition ρ} {D : Condition σ} (h : C.FillsTo D) :
    ∀ (s : Sketch ρ) (bs : List σ), s.Meets C → (s.fill bs).Meets D
  | .closed e, _, hs => h.closed e hs
  | .use _, [], _ => h.unknown
  | .use _, u :: _, _ => h.use u
  | .make function args, bs, hs => ⟨h.make function args bs hs.1, allMeet_fillAll h args bs hs.2⟩
  | .refine _ args, bs, hs => allMeet_fillAll h args bs hs
  | .list items, bs, hs => allMeet_fillAll h items bs hs
  | .object fields, bs, hs => fieldsMeet_fillFields h fields bs hs
  | .dropping looked kept, bs, hs => ⟨allMeet_fillAll h looked bs hs.1, h.closed kept hs.2⟩

theorem allMeet_fillAll {C : Condition ρ} {D : Condition σ} (h : C.FillsTo D) :
    ∀ (ss : List (Sketch ρ)) (bs : List σ), AllMeet C ss → AllMeet D (fillAll ss bs)
  | [], _, _ => trivial
  | s :: ss, _, hs => ⟨meets_fill h s _ hs.1, allMeet_fillAll h ss _ hs.2⟩

theorem fieldsMeet_fillFields {C : Condition ρ} {D : Condition σ} (h : C.FillsTo D) :
    ∀ (fs : List (Key × Sketch ρ)) (bs : List σ), FieldsMeet C fs → FieldsMeet D (fillFields fs bs)
  | [], _, _ => trivial
  | (_, s) :: fs, _, hs => ⟨meets_fill h s _ hs.1, fieldsMeet_fillFields h fs _ hs.2⟩

end

/-! ### Answers, one for one -/

section Answers

variable {R : ρ → σ → Prop}

theorem forall₂_append_split {as as' : List ρ} {bs : List σ} (h : List.Forall₂ R (as ++ as') bs) :
    List.Forall₂ R as (bs.take as.length) ∧ List.Forall₂ R as' (bs.drop as.length) := by
  constructor
  · simpa using List.forall₂_take as.length h
  · simpa using List.forall₂_drop as.length h

mutual

/-- **What is written are the answers to what was to be written**, one for one. -/
theorem uses_fill_forall₂ :
    ∀ (s : Sketch ρ) (bs : List σ), List.Forall₂ R s.holes bs → List.Forall₂ R s.uses (s.fill bs).uses
  | .closed _, _, _ => .nil
  | .use _, _ :: _, .cons h _ => .cons h .nil
  | .make _ args, bs, h => usesOf_fillAll_forall₂ args bs h
  | .refine _ args, bs, h => usesOf_fillAll_forall₂ args bs h
  | .list items, bs, h => usesOf_fillAll_forall₂ items bs h
  | .object fields, bs, h => fieldUses_fillFields_forall₂ fields bs h
  | .dropping _ _, _, _ => .nil

theorem usesOf_fillAll_forall₂ :
    ∀ (ss : List (Sketch ρ)) (bs : List σ), List.Forall₂ R (holesOf ss) bs →
      List.Forall₂ R (usesOf ss) (usesOf (fillAll ss bs))
  | [], _, _ => .nil
  | s :: ss, bs, h => by
    obtain ⟨hs, hss⟩ := forall₂_append_split h
    exact List.rel_append (uses_fill_forall₂ s _ hs) (usesOf_fillAll_forall₂ ss _ hss)

theorem fieldUses_fillFields_forall₂ :
    ∀ (fs : List (Key × Sketch ρ)) (bs : List σ), List.Forall₂ R (fieldHoles fs) bs →
      List.Forall₂ R (fieldUses fs) (fieldUses (fillFields fs bs))
  | [], _, _ => .nil
  | (_, s) :: fs, bs, h => by
    obtain ⟨hs, hfs⟩ := forall₂_append_split h
    exact List.rel_append (uses_fill_forall₂ s _ hs) (fieldUses_fillFields_forall₂ fs _ hfs)

end

end Answers

end Typeforge.Validator.Sketch
