import Typeforge.Proofs.Naming.Table
import Typeforge.Proofs.Steps
import Typeforge.Proofs.Validator.Outline
import Typeforge.Validator.Plugin

/-!
# What the steps of a session do

Declaring what a reference leads to is four moves on the session with a run over the holes of an outline
between them: the reference gets a name (`naming`), it is among those being followed (`entering`), the holes
are followed, it is taken off again (`leaving`) and the constant is added (`declaring`). A use marks the
session when it is a lazy one (`marked`). The equations here say when each move is made, and `DeclareResult` and
`FollowResult` what a step can come to; nothing after this module opens `declareWith` or `follow` again.

`followStep` is what `follow` does as long as its budget lasts.
-/

namespace Typeforge.Validator

open Schema Naming Sketch

namespace Session

/-! ### The moves -/

variable (s : Session) (r : String) (style : Style) (d : Declaration) (p : Bool)

/-- The session in which the reference has got a name. -/
def naming : Session := { s with names := s.names ++ [(r, s.names.nextName r style)] }

/-- The session in which the reference is being followed. -/
def entering : Session := if s.following.contains r then s else { s with following := r :: s.following }

/-- The session `t` that was reached from `s` by following the reference, which is done now. -/
def leaving (t : Session) : Session :=
  if s.following.contains r then t else { t with following := t.following.erase r }

def declaring : Session := { s with declarations := s.declarations ++ [d] }

/-- The session after a use, which is lazy if `p` is set. -/
def marked : Session := if p then { s with postponed := p } else s

/-- The session in which an event is looked at. -/
def alone : Session := { s with following := [], postponed := false, style }

/-- The session `t` that was reached from `s` by looking at an event, which is done now. -/
def rejoined (t : Session) : Session :=
  { t with following := s.following, postponed := s.postponed, style := s.style }

@[simp] theorem naming_names : (s.naming r style).names = s.names ++ [(r, s.names.nextName r style)] := rfl

@[simp] theorem naming_declarations : (s.naming r style).declarations = s.declarations := rfl

@[simp] theorem naming_following : (s.naming r style).following = s.following := rfl

@[simp] theorem naming_postponed : (s.naming r style).postponed = s.postponed := rfl

@[simp] theorem naming_style : (s.naming r style).style = s.style := rfl

@[simp] theorem entering_names : (s.entering r).names = s.names := by unfold entering; split <;> rfl

@[simp] theorem entering_declarations : (s.entering r).declarations = s.declarations := by
  unfold entering; split <;> rfl

@[simp] theorem entering_postponed : (s.entering r).postponed = s.postponed := by unfold entering; split <;> rfl

@[simp] theorem entering_style : (s.entering r).style = s.style := by unfold entering; split <;> rfl

@[simp] theorem leaving_names (t : Session) : (s.leaving r t).names = t.names := by unfold leaving; split <;> rfl

@[simp] theorem leaving_declarations (t : Session) : (s.leaving r t).declarations = t.declarations := by
  unfold leaving; split <;> rfl

@[simp] theorem leaving_postponed (t : Session) : (s.leaving r t).postponed = t.postponed := by
  unfold leaving; split <;> rfl

@[simp] theorem leaving_style (t : Session) : (s.leaving r t).style = t.style := by unfold leaving; split <;> rfl

@[simp] theorem declaring_names : (s.declaring d).names = s.names := rfl

@[simp] theorem declaring_declarations : (s.declaring d).declarations = s.declarations ++ [d] := rfl

@[simp] theorem declaring_following : (s.declaring d).following = s.following := rfl

@[simp] theorem declaring_postponed : (s.declaring d).postponed = s.postponed := rfl

@[simp] theorem declaring_style : (s.declaring d).style = s.style := rfl

@[simp] theorem marked_names : (s.marked p).names = s.names := by cases p <;> rfl

@[simp] theorem marked_declarations : (s.marked p).declarations = s.declarations := by cases p <;> rfl

@[simp] theorem marked_following : (s.marked p).following = s.following := by cases p <;> rfl

@[simp] theorem marked_postponed : (s.marked p).postponed = (p || s.postponed) := by cases p <;> rfl

@[simp] theorem marked_style : (s.marked p).style = s.style := by cases p <;> rfl

variable {s r style}

theorem nameOf?_naming (hr : s.names.nameOf? r = none) :
    (s.naming r style).names.nameOf? r = some (s.names.nextName r style) := by
  rw [naming_names, Table.nameOf?_append, hr]
  simp [Table.nameOf?, Keyed.get?]

theorem keys_entered :
    Keyed.keys ((s.naming r style).entering r).names = Keyed.keys s.names ++ [r] := by
  simp [Keyed.keys]

theorem leaving_entering {t : Session} (h : t.following = (s.entering r).following) :
    (s.leaving r t).following = s.following := by
  unfold leaving
  unfold entering at h
  split
  · rename_i hr
    rwa [if_pos hr] at h
  · rename_i hr
    rw [if_neg hr] at h
    simp [h]

theorem leaving_following {t : Session} (h : t.following = ((s.naming r style).entering r).following) :
    (s.leaving r t).following = s.following := (s.naming r style).leaving_entering h

end Session

/-! ### Declaring what a reference leads to -/

section Declare

variable {options : Options} {f : String → Compile Use} {r name : String} {n : Node} {style : Style} {s : Session}

theorem run_following {α : Type} (steps : Compile α) : (following (some r) steps).run.run s =
    ((steps.run.run (s.entering r)).1, s.leaving r (steps.run.run (s.entering r)).2) := by
  show (if s.following.contains r then steps.run.run s
    else ((steps.run.run { s with following := r :: s.following }).1,
      { (steps.run.run { s with following := r :: s.following }).2 with
        following := (steps.run.run { s with following := r :: s.following }).2.following.erase r })) = _
  unfold Session.entering Session.leaving
  split <;> rfl

theorem run_apart {α : Type} (steps : Compile α) : (apart style steps).run.run s =
    ((steps.run.run (s.alone style)).1, s.rejoined (steps.run.run (s.alone style)).2) := rfl

/-- The references that a node makes a session follow, in order. -/
def holesIn (options : Options) (n : Node) : List String := holesOf (outline options.metadata n false)

/-- The constant for a node, given the uses in its holes. -/
def declarationOf (options : Options) (n : Node) (name : String) (annotated : Bool) (uses : List Use) :
    Declaration where
  name
  comment := if options.comments then commentOn n.settled.toAttributes else []
  annotated
  validator := .pipe (fillAll (outline options.metadata n false) uses)

theorem run_assignName : (assignName r style).run.run s =
    (.ok (s.names.assign r style).1, { s with names := (s.names.assign r style).2 }) := rfl

theorem run_declareWith_named (h : s.names.nameOf? r = some name) :
    (declareWith options f r n style).run.run s = (.ok name, s) := by
  rw [declareWith, run_bind, run_assignName, Table.assign_named h]
  rfl

/-- A reference without a name is named, followed, and declared when its holes are filled. -/
theorem run_declareWith_unnamed (h : s.names.nameOf? r = none) :
    (declareWith options f r n style).run.run s =
      match ((holesIn options n).mapM f).run.run ((s.naming r style).entering r) with
      | (.ok uses, u) =>
        (.ok (s.names.nextName r style),
          (s.leaving r u).declaring (declarationOf options n (s.names.nextName r style) u.postponed uses))
      | (.error e, u) => (.error e, s.leaving r u) := by
  rw [declareWith, run_bind, run_assignName, Table.assign_unnamed h]
  show (do
    let _ ← compileWith options f n false (some r) (some ⟨s.names.nextName r style, true⟩)
    pure (s.names.nextName r style) : Compile String).run.run (s.naming r style) = _
  rw [run_bind, compileWith, run_bind, run_following, Sketch.traverseList_eq, run_bind, ← holesIn]
  rcases ((holesIn options n).mapM f).run.run ((s.naming r style).entering r) with ⟨e | uses, u⟩
  · rfl
  · show (Except.ok (s.names.nextName r style), (s.leaving r u).declaring
      (declarationOf options n (s.names.nextName r style) (s.leaving r u).postponed uses)) = _
    rw [s.leaving_postponed]

/-- What declaring can come to: a name that is there already, a new name with its constant, or a failure in one
of the holes, after which the new name stays. -/
inductive DeclareResult (options : Options) (f : String → Compile Use) (r : String) (n : Node) (style : Style)
    (s : Session) : Except Failure String → Session → Prop
  | named {name : String} (hr : s.names.nameOf? r = some name) : DeclareResult options f r n style s (.ok name) s
  | declared {uses : List Use} {u : Session} (hr : s.names.nameOf? r = none)
    (hu : Ends ((holesIn options n).mapM f) ((s.naming r style).entering r) (.ok uses) u) :
    DeclareResult options f r n style s (.ok (s.names.nextName r style))
      ((s.leaving r u).declaring (declarationOf options n (s.names.nextName r style) u.postponed uses))
  | failed {e : Failure} {u : Session} (hr : s.names.nameOf? r = none)
    (hu : Ends ((holesIn options n).mapM f) ((s.naming r style).entering r) (.error e) u) :
    DeclareResult options f r n style s (.error e) (s.leaving r u)

theorem declareResult_of_ends {result : Except Failure String} {t : Session}
    (h : Ends (declareWith options f r n style) s result t) : DeclareResult options f r n style s result t := by
  unfold Ends at h
  cases hr : s.names.nameOf? r with
  | some name =>
    rw [run_declareWith_named hr] at h
    cases h
    exact .named hr
  | none =>
    rw [run_declareWith_unnamed hr] at h
    rcases hu : ((holesIn options n).mapM f).run.run ((s.naming r style).entering r) with ⟨e | uses, u⟩
    · rw [hu] at h
      cases h
      exact .failed hr hu
    · rw [hu] at h
      cases h
      exact .declared hr hu

theorem run_declare {task : Task} : (declare task r n style).run.run s =
    match (declareWith task.options (follow task (followBudget task.document)) r n style).run.run s with
    | (.ok _, u) => (.ok (), u)
    | (.error e, u) => (.error e, u) := by
  rw [declare, run_bind]
  rcases (declareWith task.options (follow task (followBudget task.document)) r n style).run.run s with ⟨e | _, u⟩ <;>
    rfl

end Declare

/-! ### Following a reference -/

section Follow

variable {task : Task} {inner : String → Compile Use} {r name : String} {n : Node} {s : Session}

/-- The use of a name, after which the session is marked if the use is lazy. -/
def markedUse (name : String) (postponed : Bool) : Compile Use := do
  if postponed then modify fun s => { s with postponed }
  return { name, postponed }

/-- The use of what a reference leads to, where `inner` gives the uses in it. -/
def followStep (task : Task) (inner : String → Compile Use) (r : String) : Compile Use := do
  let s ← get
  let name ← match s.names.nameOf? r, task.document.resolve? r with
    | some name, _ => pure name
    | none, some n => declareWith task.options inner r n s.style
    | none, none => throw (.danglingReference r)
  markedUse name (s.following.contains r)

theorem follow_succ (budget : Nat) : follow task (budget + 1) r = followStep task (follow task budget) r := rfl

theorem run_markedUse (p : Bool) : (markedUse name p).run.run s = (.ok ⟨name, p⟩, s.marked p) := by
  cases p <;> rfl

theorem run_followStep_named (h : s.names.nameOf? r = some name) :
    (followStep task inner r).run.run s =
      (.ok ⟨name, s.following.contains r⟩, s.marked (s.following.contains r)) := by
  simp only [followStep, run_bind, run_get, h]
  exact run_markedUse _

theorem run_followStep_found (h : s.names.nameOf? r = none) (hn : task.document.resolve? r = some n) :
    (followStep task inner r).run.run s =
      match (declareWith task.options inner r n s.style).run.run s with
      | (.ok name, u) => (.ok ⟨name, s.following.contains r⟩, u.marked (s.following.contains r))
      | (.error e, u) => (.error e, u) := by
  simp only [followStep, run_bind, run_get, h, hn]
  rcases (declareWith task.options inner r n s.style).run.run s with ⟨e | name, u⟩
  · rfl
  · exact run_markedUse _

theorem run_followStep_dangling (h : s.names.nameOf? r = none) (hn : task.document.resolve? r = none) :
    (followStep task inner r).run.run s = (.error (.danglingReference r), s) := by
  simp only [followStep, run_bind, run_get, h, hn]
  rfl

/-- What following can come to: a use of a name that is there already or of one that is declared on the way, the
failure of declaring it, or the failure of the reference itself. -/
inductive FollowResult (task : Task) (inner : String → Compile Use) (r : String) (s : Session) :
    Except Failure Use → Session → Prop
  | named {name : String} (hr : s.names.nameOf? r = some name) :
    FollowResult task inner r s (.ok ⟨name, s.following.contains r⟩) (s.marked (s.following.contains r))
  | found {name : String} {n : Node} {u : Session} (hr : s.names.nameOf? r = none)
    (hn : task.document.resolve? r = some n) (hu : Ends (declareWith task.options inner r n s.style) s (.ok name) u) :
    FollowResult task inner r s (.ok ⟨name, s.following.contains r⟩) (u.marked (s.following.contains r))
  | failed {e : Failure} {n : Node} {u : Session} (hr : s.names.nameOf? r = none)
    (hn : task.document.resolve? r = some n) (hu : Ends (declareWith task.options inner r n s.style) s (.error e) u) :
    FollowResult task inner r s (.error e) u
  | dangling (hr : s.names.nameOf? r = none) (hn : task.document.resolve? r = none) :
    FollowResult task inner r s (.error (.danglingReference r)) s

theorem followResult_of_ends {result : Except Failure Use} {t : Session} (h : Ends (followStep task inner r) s result t) :
    FollowResult task inner r s result t := by
  unfold Ends at h
  cases hr : s.names.nameOf? r with
  | some name =>
    rw [run_followStep_named hr] at h
    cases h
    exact .named hr
  | none =>
    cases hn : task.document.resolve? r with
    | none =>
      rw [run_followStep_dangling hr hn] at h
      cases h
      exact .dangling hr hn
    | some n =>
      rw [run_followStep_found hr hn] at h
      rcases hu : (declareWith task.options inner r n s.style).run.run s with ⟨e | name, u⟩
      · rw [hu] at h
        cases h
        exact .failed hr hn hu
      · rw [hu] at h
        cases h
        exact .found hr hn hu

end Follow

/-! ### Filling a file -/

section File

variable {options : Options} {d : Document} {file : File}

/-- The session in which a file is filled. -/
def startOf (options : Options) (file : File) : Session :=
  { names := (file.addImport libraryImport).names, style := options.definitions.toStyle }

theorem fillFile_cases (options : Options) (d : Document) (file : File) :
    (∃ s, Ends (declareAll ⟨d, options⟩) (startOf options file) (.ok ()) s ∧
      fillFile options d file = .ok (s.addTo (file.addImport libraryImport))) ∨
    ∃ e s, Ends (declareAll ⟨d, options⟩) (startOf options file) (.error e) s ∧
      fillFile options d file = .error e := by
  unfold fillFile
  simp only
  rcases h : (declareAll ⟨d, options⟩).run.run
    { names := (file.addImport libraryImport).names, style := options.definitions.toStyle } with ⟨e | ⟨⟩, s⟩
  · exact .inr ⟨e, s, h, rfl⟩
  · exact .inl ⟨s, h, rfl⟩

theorem fillFile_ok {id : String} (h : fillFile options d { id } = .ok file) :
    ∃ s, Ends (declareAll ⟨d, options⟩) { style := options.definitions.toStyle } (.ok ()) s ∧
      file.imports = [libraryImport] ∧ file.names = s.names ∧
        file.body = s.declarations.flatMap Declaration.statements := by
  rcases fillFile_cases options d { id } with ⟨s, hends, hok⟩ | ⟨e, s, -, herror⟩
  · rw [hok] at h
    cases h
    exact ⟨s, hends, rfl, rfl, rfl⟩
  · rw [herror] at h
    cases h

end File

end Typeforge.Validator
