import Typeforge.Proofs.Validator.Session

/-!
# What compiling leaves alone

Compiling a node, in whatever session and whether it fails or not, loses nothing: what was being followed is what
is being followed, references are still named in the same style, names and declarations are only added, and a
session that is marked by a lazy use stays marked (`Kept`). For the file that the session adds to, this means that
its statements, its names and its imports stay (`Framed`).

* `keeps_declareWith_kept`, `keeps_followStep_kept`: one step, when the steps inside it do the same;
* `keeps_follow_kept`: a way of any length, by induction on the budget;
* `keeps_compile`: a node, with or without a reference that leads to it.
-/

namespace Typeforge.Validator

open Schema Naming Code

/-- From `s` to `t` nothing was lost. -/
structure Kept (s t : Session) : Prop where
  following : t.following = s.following
  style : t.style = s.style
  postponed : s.postponed = true → t.postponed = true
  names : s.names <+: t.names
  declarations : s.declarations <+: t.declarations

section Relation

variable {s t u : Session} {r name : String} {style : Style}

theorem Kept.refl (s : Session) : Kept s s := ⟨rfl, rfl, id, List.prefix_rfl, List.prefix_rfl⟩

theorem Kept.trans (s t u : Session) (h : Kept s t) (h' : Kept t u) : Kept s u where
  following := h'.following.trans h.following
  style := h'.style.trans h.style
  postponed hs := h'.postponed (h.postponed hs)
  names := h.names.trans h'.names
  declarations := h.declarations.trans h'.declarations

theorem kept_naming (s : Session) (r : String) (style : Style) : Kept s (s.naming r style) :=
  ⟨rfl, rfl, id, List.prefix_append _ _, List.prefix_rfl⟩

theorem Kept.nameOf? (h : Kept s t) (hr : s.names.nameOf? r = some name) : t.names.nameOf? r = some name := by
  obtain ⟨ns, hns⟩ := h.names
  rw [← hns]
  exact Keyed.get?_append_of_some hr

/-- A reference that was followed is taken off again just if it was not being followed before. -/
theorem Kept.left (h : Kept (s.entering r) u) : Kept s (s.leaving r u) where
  following := Session.leaving_entering h.following
  style := by simpa using h.style
  postponed := by simpa using h.postponed
  names := by simpa using h.names
  declarations := by simpa using h.declarations

theorem Kept.declaring (h : Kept s t) (d : Declaration) : Kept s (t.declaring d) :=
  { h with declarations := h.declarations.trans (List.prefix_append _ _) }

theorem Kept.marked (h : Kept s t) (p : Bool) : Kept s (t.marked p) where
  following := by simpa using h.following
  style := by simpa using h.style
  postponed hs := by simp [h.postponed hs]
  names := by simpa using h.names
  declarations := by simpa using h.declarations

end Relation

/-! ### One step -/

section Step

variable {task : Task} {inner : String → Compile Use} {r : String} {n : Node} {style : Style}

theorem keeps_declareWith_kept (hinner : ∀ r, Keeps Kept (inner r)) :
    Keeps Kept (declareWith task.options inner r n style) := by
  intro s res t h
  have inside : Keeps Kept ((holesIn task.options n).mapM inner) := Keeps.mapM Kept.refl Kept.trans fun r _ => hinner r
  -- what happens between the name and the constant
  have between (res' : Except Failure (List Use)) (u : Session)
      (hu : Ends ((holesIn task.options n).mapM inner) ((s.naming r style).entering r) res' u) :
      Kept s (s.leaving r u) :=
    (kept_naming s r style).trans _ _ _ (inside _ _ _ hu).left
  cases declareResult_of_ends h with
  | named => exact Kept.refl s
  | declared hr hu => exact (between _ _ hu).declaring _
  | failed hr hu => exact between _ _ hu

theorem keeps_followStep_kept (hinner : ∀ r, Keeps Kept (inner r)) : Keeps Kept (followStep task inner r) := by
  intro s res t h
  cases followResult_of_ends h with
  | named => exact (Kept.refl s).marked _
  | found hr hn hu => exact (keeps_declareWith_kept hinner _ _ _ hu).marked _
  | failed hr hn hu => exact keeps_declareWith_kept hinner _ _ _ hu
  | dangling => exact Kept.refl s

theorem keeps_follow_kept (budget : Nat) (r : String) : Keeps Kept (follow task budget r) := by
  induction budget generalizing r with
  | zero =>
    intro s res t h
    rw [(ends_throw.1 h).2]
    exact Kept.refl s
  | succ budget ih => exact keeps_followStep_kept ih

end Step

/-! ### A node -/

section Compile

variable {options : Options} {task : Task} {f : String → Compile Use} {n : Node} {optional : Bool}

theorem keeps_assignName (r : String) (style : Style) : Keeps Kept (assignName r style) := by
  intro s res t h
  obtain ⟨-, rfl⟩ := ends_modifyGet.1 h
  cases hr : s.names.nameOf? r with
  | some name =>
    simp only [Table.assign_named hr]
    exact Kept.refl s
  | none =>
    simp only [Table.assign_unnamed hr]
    exact kept_naming s r style

theorem keeps_following {α : Type} {steps : Compile α} (h : Keeps Kept steps) (reference : Option String) :
    Keeps Kept (following reference steps) := by
  cases reference with
  | none => exact h
  | some r =>
    intro s res t hends
    unfold Ends at hends
    rw [run_following] at hends
    cases hends
    exact (h _ _ _ rfl).left

theorem keeps_traverseList (hf : ∀ r, Keeps Kept (f r)) (sketches : List (Sketch String)) :
    Keeps Kept (Sketch.traverseList f sketches) := by
  rw [Sketch.traverseList_eq]
  exact Keeps.bind Kept.trans (Keeps.mapM Kept.refl Kept.trans fun r _ => hf r) fun _ => Keeps.pure Kept.refl _

theorem keeps_compileWith (hf : ∀ r, Keeps Kept (f r)) (reference : Option String) (assigned : Option Assigned) :
    Keeps Kept (compileWith options f n optional reference assigned) := by
  have parts : Keeps Kept (following reference (Sketch.traverseList f (outline options.metadata n optional))) :=
    keeps_following (keeps_traverseList hf _) reference
  unfold compileWith
  refine Keeps.bind Kept.trans parts fun parts => ?_
  split
  · refine Keeps.bind Kept.trans (fun s res t h => ?_) fun _ => Keeps.pure Kept.refl _
    obtain ⟨-, rfl⟩ := ends_modify.1 h
    exact (Kept.refl s).declaring _
  · exact Keeps.pure Kept.refl _

theorem keeps_assigned (r : String) : Keeps Kept (get >>= fun s : Session => assignName r s.style) := by
  refine Keeps.bind Kept.trans (fun s res t h => ?_) fun s => keeps_assignName r s.style
  rw [← (Prod.mk.inj h).2]
  exact Kept.refl s

/-- **Compiling a node loses nothing**, whether it fails or not. -/
theorem keeps_compile (reference : Option String) (answer : Option (Option Assigned)) :
    Keeps Kept (compile task n optional reference answer) := by
  have node (assigned : Option Assigned) :
      Keeps Kept (compileWith task.options (follow task (followBudget task.document)) n optional reference assigned) :=
    keeps_compileWith (keeps_follow_kept _) reference assigned
  unfold compile
  simp only
  split
  · rename_i r
    refine Keeps.bind Kept.trans ?_ node
    rw [map_eq_pure_bind]
    exact Keeps.bind Kept.trans (keeps_assigned r) fun _ => Keeps.pure Kept.refl _
  · exact Keeps.bind Kept.trans (Keeps.pure Kept.refl _) node

end Compile

/-! ### The file that a session adds to -/

/-- What a step from the session `s` to `t` leaves alone, there and in the file that the session adds to. -/
structure Framed (file : File) (s t : Session) : Prop where
  /-- The references that are being followed. -/
  following : t.following = s.following
  /-- The mark of a lazy use. -/
  postponed : s.postponed = true → t.postponed = true
  /-- The case and the rule by which references are named. -/
  style : t.style = s.style
  body : (s.addTo file).body <+: (t.addTo file).body
  names : ∀ r name, (s.addTo file).nameOf? r = some name → (t.addTo file).nameOf? r = some name
  imports : (t.addTo file).imports = (s.addTo file).imports

theorem Kept.framed {s t : Session} (h : Kept s t) (file : File) : Framed file s t where
  following := h.following
  postponed := h.postponed
  style := h.style
  body := by
    obtain ⟨ds, hds⟩ := h.declarations
    refine ⟨ds.flatMap Declaration.statements, ?_⟩
    simp [Session.addTo, ← hds]
  names _ _ hr := h.nameOf? hr
  imports := rfl

/-- **The frame of compiling.** Whatever node is compiled, in whatever place and session, and whatever comes of it:
what was being followed, the mark of a lazy use, the style, and the statements, names and imports of the file stay. -/
theorem compile_frames (task : Task) (n : Node) (optional : Bool) (reference : Option String)
    (answer : Option (Option Assigned)) (file : File) (s : Session) :
    Framed file s ((compile task n optional reference answer).run.run s).2 :=
  (keeps_compile reference answer _ _ _ rfl).framed file

end Typeforge.Validator
