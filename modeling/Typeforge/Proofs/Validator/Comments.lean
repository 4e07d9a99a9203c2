import Typeforge.Proofs.Alike
import Typeforge.Proofs.Output.Comments
import Typeforge.Proofs.Validator.Targets

/-!
# Comments on validators

Whether the validators have comments is asked only where a constant is added, and whether the family of the
definitions is enabled is not asked at all. So two runs that differ in these options only make the same moves, and
come to sessions that are the same but for comments: the same references are named and followed, the same uses are
lazy, and the same references lead nowhere.
-/

namespace Typeforge.Validator

open Code Schema Naming File

/-- The options with other switches for the comments and for the family of the definitions. -/
def Options.switched (options : Options) (comments enabled : Bool) : Options :=
  { options with comments, definitions := { options.definitions with enabled } }

/-- The task with other switches for the comments and for the family of the definitions. -/
def Task.switched (task : Task) (comments enabled : Bool) : Task :=
  { task with options := task.options.switched comments enabled }

def Declaration.uncommented (d : Declaration) : Declaration := { d with comment := [] }

/-- The sessions differ at most in the comments on what they have declared. -/
structure SameButComments (s t : Session) : Prop where
  names : t.names = s.names
  declarations : t.declarations.map Declaration.uncommented = s.declarations.map Declaration.uncommented
  following : t.following = s.following
  postponed : t.postponed = s.postponed
  style : t.style = s.style

/-! ### The moves -/

section Moves

variable {s t u v : Session}

theorem SameButComments.refl (s : Session) : SameButComments s s := ⟨rfl, rfl, rfl, rfl, rfl⟩

theorem SameButComments.naming (h : SameButComments s t) (r : String) (style : Style) :
    SameButComments (s.naming r style) (t.naming r style) :=
  { h with names := by simp [h.names] }

theorem SameButComments.entering (h : SameButComments s t) (r : String) :
    SameButComments (s.entering r) (t.entering r) := by
  unfold Session.entering
  rw [h.following]
  split
  · exact h
  · exact { h with following := rfl }

theorem SameButComments.leaving (h : SameButComments s t) (hu : SameButComments u v) (r : String) :
    SameButComments (s.leaving r u) (t.leaving r v) := by
  unfold Session.leaving
  rw [h.following]
  split
  · exact hu
  · exact { hu with following := by simp [hu.following] }

theorem SameButComments.declaring (h : SameButComments s t) {d d' : Declaration}
    (hd : d'.uncommented = d.uncommented) : SameButComments (s.declaring d) (t.declaring d') :=
  { h with declarations := by simp [h.declarations, hd] }

theorem SameButComments.marked (h : SameButComments s t) (p : Bool) : SameButComments (s.marked p) (t.marked p) := by
  cases p with
  | false => exact h
  | true => exact { h with postponed := rfl }

theorem SameButComments.alone (h : SameButComments s t) (style : Style) :
    SameButComments (s.alone style) (t.alone style) :=
  { h with following := rfl, postponed := rfl, style := rfl }

theorem SameButComments.rejoined (h : SameButComments s t) (hu : SameButComments u v) :
    SameButComments (s.rejoined u) (t.rejoined v) :=
  { hu with following := h.following, postponed := h.postponed, style := h.style }

end Moves

/-! ### Following a reference -/

section Steps

variable {options : Options} {task : Task} {comments enabled : Bool} {inner inner' : String → Compile Use}
  {r : String} {n : Node} {style : Style}

theorem alike_declareWith (hinner : ∀ r, Alike SameButComments (inner r) (inner' r)) :
    Alike SameButComments (declareWith options inner r n style)
      (declareWith (options.switched comments enabled) inner' r n style) := by
  intro s t h
  cases hr : s.names.nameOf? r with
  | some name =>
    have hr' : t.names.nameOf? r = some name := by rw [h.names, hr]
    rw [run_declareWith_named hr, run_declareWith_named hr']
    exact ⟨rfl, h⟩
  | none =>
    have hr' : t.names.nameOf? r = none := by rw [h.names, hr]
    have inside : Alike SameButComments ((holesIn options n).mapM inner) ((holesIn options n).mapM inner') :=
      Alike.mapM fun r _ => hinner r
    obtain ⟨res, u, v, hu, hv, huv⟩ := inside.ends ((h.naming r style).entering r)
    have hv : ((holesIn (options.switched comments enabled) n).mapM inner').run.run ((t.naming r style).entering r)
      = (res, v) := hv
    rw [run_declareWith_unnamed hr, run_declareWith_unnamed hr', hu, hv]
    have left := h.leaving huv r
    cases res with
    | error e => exact ⟨rfl, left⟩
    | ok uses =>
      refine ⟨congrArg (Except.ok <| Table.nextName · r style) h.names.symm, left.declaring ?_⟩
      simp only [declarationOf, Declaration.uncommented, h.names, huv.postponed]
      rfl

theorem alike_followStep (hinner : ∀ r, Alike SameButComments (inner r) (inner' r)) :
    Alike SameButComments (followStep task inner r) (followStep (task.switched comments enabled) inner' r) := by
  intro s t h
  cases hr : s.names.nameOf? r with
  | some name =>
    have hr' : t.names.nameOf? r = some name := by rw [h.names, hr]
    rw [run_followStep_named hr, run_followStep_named hr', h.following]
    exact ⟨rfl, h.marked _⟩
  | none =>
    have hr' : t.names.nameOf? r = none := by rw [h.names, hr]
    cases hn : task.document.resolve? r with
    | none =>
      have hn' : (task.switched comments enabled).document.resolve? r = none := hn
      rw [run_followStep_dangling hr hn, run_followStep_dangling hr' hn']
      exact ⟨rfl, h⟩
    | some n =>
      have hn' : (task.switched comments enabled).document.resolve? r = some n := hn
      have declared : Alike SameButComments (declareWith task.options inner r n s.style)
          (declareWith (task.switched comments enabled).options inner' r n s.style) := alike_declareWith hinner
      obtain ⟨res, u, v, hu, hv, huv⟩ := declared.ends h
      rw [run_followStep_found hr hn, run_followStep_found hr' hn', h.style, h.following, hu, hv]
      cases res with
      | error e => exact ⟨rfl, huv⟩
      | ok name => exact ⟨rfl, huv.marked _⟩

theorem alike_follow (budget : Nat) (r : String) :
    Alike SameButComments (follow task budget r) (follow (task.switched comments enabled) budget r) := by
  induction budget generalizing r with
  | zero => exact Alike.throw _
  | succ budget ih => exact alike_followStep ih

end Steps

/-! ### Filling a file -/

section File

variable {options : Options} {task : Task} {comments enabled : Bool} {d : Document}

theorem alike_apart {α : Type} {steps steps' : Compile α} (style : Style) (h : Alike SameButComments steps steps') :
    Alike SameButComments (apart style steps) (apart style steps') := by
  intro s t hs
  obtain ⟨same, related⟩ := h _ _ (hs.alone style)
  exact ⟨same, hs.rejoined related⟩

theorem alike_declareTarget (x : Target) :
    Alike SameButComments (declareTarget task x) (declareTarget (task.switched comments enabled) x) := by
  have declared : Alike SameButComments
      (declareWith task.options (follow task (followBudget task.document)) x.reference x.node x.style)
      (declareWith (task.switched comments enabled).options
        (follow (task.switched comments enabled) (followBudget task.document)) x.reference x.node x.style) :=
    alike_declareWith (alike_follow _)
  exact alike_apart _ (Alike.bind declared fun _ => Alike.pure ())

theorem alike_declareAll : Alike SameButComments (declareAll task) (declareAll (task.switched comments enabled)) := by
  rw [declareAll_eq, declareAll_eq]
  -- what is declared, and how it is named, depends on neither of the options
  show Alike SameButComments ((targets task.options task.document).forM (declareTarget task))
    ((targets task.options task.document).forM (declareTarget (task.switched comments enabled)))
  exact Alike.forM fun x _ => alike_declareTarget x

theorem code_statements (x : Declaration) :
    x.statements.filter (fun s => !s.isComment) = x.uncommented.statements := by
  unfold Declaration.statements Declaration.uncommented
  split <;> simp [Stmt.isComment]

theorem SameButComments.addTo {s t : Session} (h : SameButComments s t) (file : Typeforge.File) :
    (s.addTo file).SameButComments (t.addTo file) where
  imports := rfl
  names := h.names
  code := by
    have code (s : Session) : (s.addTo file).code =
        file.code ++ (s.declarations.map Declaration.uncommented).flatMap Declaration.statements := by
      simp only [Session.addTo, Typeforge.File.code, List.filter_append, List.filter_flatMap, code_statements,
        List.flatMap_map]
    rw [code, code, h.declarations]

/-- **Switching comments changes comments only**: the failure, or else the imports, names and statements of the file
of validators are the same. -/
theorem fillFile_switched (options : Options) (comments enabled : Bool) (d : Document) (file : Typeforge.File) :
    AgreeButComments (fillFile options d file) (fillFile (options.switched comments enabled) d file) := by
  have alike : Alike SameButComments (declareAll ⟨d, options⟩) (declareAll ⟨d, options.switched comments enabled⟩) :=
    alike_declareAll
  obtain ⟨res, s, t, h, h', hst⟩ := alike.ends (.refl (startOf options file))
  have h' : Ends (declareAll ⟨d, options.switched comments enabled⟩)
    (startOf (options.switched comments enabled) file) res t := h'
  unfold Ends startOf at h h'
  unfold fillFile
  simp only [h, h']
  cases res with
  | error e => exact .failed e
  | ok _ => exact .filled (hst.addTo _)

end File

end Typeforge.Validator
