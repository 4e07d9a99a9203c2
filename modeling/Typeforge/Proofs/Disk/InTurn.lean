import Typeforge.Disk.Basic
import Mathlib.Logic.Basic

/-!
# Files that are written one after the other

A disk is given each file of a list in turn, and no file after the first that it does not take (`Writes`). All that is
asked of it is that no step but a write changes a file, and that a write changes none but its own (`Lawful`), also
where it fails. Then what the files leave is the last that goes to each place (`standing_of_inTurn`).

* `writeFiles_iff`: which steps of the disk are taken, and how they end;
* `standing_of_inTurn`, `standing_of_stopped`: what the places hold afterwards.
-/

namespace Typeforge.Disk

variable {σ P C : Type} {disk : Disk (StateM σ)} {directory : String} {f : File} {files : List File} {s t u : σ}

/-! ### The steps that are taken -/

/-- The files are taken in turn, each with its whole text. -/
inductive InTurn (disk : Disk (StateM σ)) (directory : String) : List File → σ → σ → Prop
  | nil {s : σ} : InTurn disk directory [] s s
  | cons {f : File} {files : List File} {s u t : σ}
    (first : disk.writeText (Path.join directory f.path) f.text s = (.ok (), u))
    (rest : InTurn disk directory files u t) : InTurn disk directory (f :: files) s t

/-- How it ends to write files below a directory. -/
inductive Writes (disk : Disk (StateM σ)) (directory : String) (files : List File) (s : σ) :
    Except Failure (List String) → σ → Prop
  /-- There is no directory to write to, and no file is begun. -/
  | unmade {cause : FileError} {t : σ} (make : disk.createDirectories directory s = (.error cause, t)) :
    Writes disk directory files s (.error (.unwritable directory cause)) t
  /-- The files before `f` are taken and `f` is not; none after it is begun. -/
  | stopped {before after : List File} {f : File} {cause : FileError} {u v t : σ} (split : files = before ++ f :: after)
    (make : disk.createDirectories directory s = (.ok (), u)) (turns : InTurn disk directory before u v)
    (fails : disk.writeText (Path.join directory f.path) f.text v = (.error cause, t)) :
    Writes disk directory files s (.error (.unwritable (Path.join directory f.path) cause)) t
  | done {u t : σ} (make : disk.createDirectories directory s = (.ok (), u)) (turns : InTurn disk directory files u t) :
    Writes disk directory files s (.ok (files.map fun f => Path.join directory f.path)) t

theorem writeBelow_of_taken (h : disk.writeText (Path.join directory f.path) f.text s = (.ok (), u)) :
    disk.writeBelow directory (f :: files) s =
      ((disk.writeBelow directory files u).1.map (Path.join directory f.path :: ·),
        (disk.writeBelow directory files u).2) := by
  rw [writeBelow]
  change StateT.bind _ _ s = _
  simp only [StateT.bind]
  rw [h]
  rfl

theorem writeBelow_of_refused {cause : FileError}
    (h : disk.writeText (Path.join directory f.path) f.text s = (.error cause, u)) :
    disk.writeBelow directory (f :: files) s = (.error (.unwritable (Path.join directory f.path) cause), u) := by
  rw [writeBelow]
  change StateT.bind _ _ s = _
  simp only [StateT.bind]
  rw [h]
  rfl

theorem writeBelow_ok_iff {paths : List String} : disk.writeBelow directory files s = (.ok paths, t) ↔
    InTurn disk directory files s t ∧ paths = files.map fun f => Path.join directory f.path := by
  constructor
  · intro h
    induction files generalizing s paths with
    | nil =>
      cases h
      exact ⟨.nil, rfl⟩
    | cons f files ih =>
      rcases hfirst : disk.writeText (Path.join directory f.path) f.text s with ⟨cause | ⟨⟩, u⟩
      · rw [writeBelow_of_refused hfirst] at h
        cases h
      · rw [writeBelow_of_taken hfirst] at h
        rcases hrest : disk.writeBelow directory files u with ⟨failure | rest, v⟩
        · rw [hrest] at h
          cases h
        · rw [hrest] at h
          cases h
          obtain ⟨hturns, rfl⟩ := ih hrest
          exact ⟨.cons hfirst hturns, rfl⟩
  · rintro ⟨h, rfl⟩
    induction h with
    | nil => rfl
    | cons hfirst _ ih => rw [writeBelow_of_taken hfirst, ih]; rfl

theorem writeBelow_error_iff {failure : Failure} : disk.writeBelow directory files s = (.error failure, t) ↔
    ∃ before f after cause u, files = before ++ f :: after ∧ InTurn disk directory before s u ∧
      disk.writeText (Path.join directory f.path) f.text u = (.error cause, t) ∧
      failure = .unwritable (Path.join directory f.path) cause := by
  constructor
  · intro h
    induction files generalizing s with
    | nil => cases h
    | cons f files ih =>
      rcases hfirst : disk.writeText (Path.join directory f.path) f.text s with ⟨cause | ⟨⟩, u⟩
      · rw [writeBelow_of_refused hfirst] at h
        cases h
        exact ⟨[], f, files, cause, s, rfl, .nil, hfirst, rfl⟩
      · rw [writeBelow_of_taken hfirst] at h
        rcases hrest : disk.writeBelow directory files u with ⟨failure' | rest, v⟩
        · rw [hrest] at h
          cases h
          obtain ⟨before, g, after, cause, w, rfl, hturns, hfails, rfl⟩ := ih hrest
          exact ⟨f :: before, g, after, cause, w, rfl, .cons hfirst hturns, hfails, rfl⟩
        · rw [hrest] at h
          cases h
  · rintro ⟨before, f, after, cause, u, rfl, hturns, hfails, rfl⟩
    induction hturns with
    | nil => exact writeBelow_of_refused hfails
    | cons hfirst _ ih => rw [List.cons_append, writeBelow_of_taken hfirst, ih hfails]; rfl

/-- **The steps of writing.** The first of them that fails is the last. -/
theorem writeFiles_iff {result : Except Failure (List String)} :
    disk.writeFiles directory files s = (result, t) ↔ Writes disk directory files s result t := by
  rw [writeFiles]
  change StateT.bind _ _ s = _ ↔ _
  simp only [StateT.bind]
  rcases hmake : disk.createDirectories directory s with ⟨cause | ⟨⟩, u⟩
  · constructor
    · intro h
      cases h
      exact .unmade hmake
    · intro h
      cases h with
      | unmade make => cases hmake.symm.trans make; rfl
      | stopped split make turns fails => cases hmake.symm.trans make
      | done make turns => cases hmake.symm.trans make
  · change disk.writeBelow directory files u = _ ↔ _
    constructor
    · intro h
      cases result with
      | error failure =>
        obtain ⟨before, f, after, cause, v, hsplit, hturns, hfails, rfl⟩ := writeBelow_error_iff.1 h
        exact .stopped hsplit hmake hturns hfails
      | ok paths =>
        obtain ⟨hturns, rfl⟩ := writeBelow_ok_iff.1 h
        exact .done hmake hturns
    · intro h
      cases h with
      | unmade make => cases hmake.symm.trans make
      | stopped split make turns fails =>
        cases hmake.symm.trans make
        exact writeBelow_error_iff.2 ⟨_, _, _, _, _, split, turns, fails, rfl⟩
      | done make turns =>
        cases hmake.symm.trans make
        exact writeBelow_ok_iff.2 ⟨turns, rfl⟩

/-! ### What the places hold -/

/-- What is counted on of a disk: a path leads to a place, and nothing changes what a place holds but a write to a path
that leads there. Of a write that fails no more is known. -/
structure Lawful (disk : Disk (StateM σ)) (place : σ → String → P) (found : σ → P → C) (content : String → C) :
    Prop where
  read : ∀ path s, (disk.readText path s).2 = s
  places_made : ∀ path s, place (disk.createDirectories path s).2 = place s
  made : ∀ path s, found (disk.createDirectories path s).2 = found s
  places_written : ∀ directory (f : File) s,
    place (disk.writeText (Path.join directory f.path) f.text s).2 = place s
  elsewhere : ∀ directory (f : File) s l, l ≠ place s (Path.join directory f.path) →
    found (disk.writeText (Path.join directory f.path) f.text s).2 l = found s l
  written : ∀ directory (f : File) s t, disk.writeText (Path.join directory f.path) f.text s = (.ok (), t) →
    found t (place s (Path.join directory f.path)) = content f.text

variable {place : σ → String → P} {found : σ → P → C} {content : String → C}

theorem Lawful.of_made (h : Lawful disk place found content)
    (hmake : disk.createDirectories directory s = (.ok (), t)) :
    place t = place s ∧ found t = found s := by
  have hplaces := h.places_made directory s
  have hmade := h.made directory s
  rw [hmake] at hplaces hmade
  exact ⟨hplaces, hmade⟩

variable [DecidableEq P]

/-- What a place holds after the files, where it held `before`: the last that goes there, whole. -/
def standing (lead : String → P) (content : String → C) (directory : String) (files : List File) (l : P)
    (before : C) : C :=
  files.foldl (fun held f => if lead (Path.join directory f.path) = l then content f.text else held) before

/-- **Files that are written in turn** stand where they lead, and all else is as it was. -/
theorem standing_of_inTurn (h : Lawful disk place found content) (hturns : InTurn disk directory files s t) :
    place t = place s ∧ ∀ l, found t l = standing (place s) content directory files l (found s l) := by
  induction hturns with
  | nil => exact ⟨rfl, fun _ => rfl⟩
  | @cons f files s u t hfirst _ ih =>
    obtain ⟨hplaces, hfound⟩ := ih
    have hplace := h.places_written directory f s
    have helse := h.elsewhere directory f s
    rw [hfirst] at hplace helse
    refine ⟨hplaces.trans hplace, fun l => ?_⟩
    rw [hfound, hplace, standing, standing, List.foldl_cons]
    by_cases hl : place s (Path.join directory f.path) = l
    · rw [if_pos hl, ← hl, h.written directory f s u hfirst]
    · rw [if_neg hl, helse l (Ne.symm hl)]

/-- A file that is not taken spoils no place but its own. -/
theorem standing_of_stopped (h : Lawful disk place found content) {cause : FileError} (hturns : InTurn disk directory
    files s u) (hfails : disk.writeText (Path.join directory f.path) f.text u = (.error cause, t)) (l : P)
    (hl : l ≠ place s (Path.join directory f.path)) :
    found t l = standing (place s) content directory files l (found s l) := by
  obtain ⟨hplaces, hfound⟩ := standing_of_inTurn h hturns
  have helse := h.elsewhere directory f u l (hplaces ▸ hl)
  rw [hfails] at helse
  rw [helse, hfound]

end Typeforge.Disk
