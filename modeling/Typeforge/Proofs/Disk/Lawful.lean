import Typeforge.Proofs.Disk.Write

/-!
# A tree in memory as a disk

Reading leaves a tree as it is, making directories leaves its files as they are (`SameFiles`), and a file that is
written is all that a write changes. So a tree is a disk on which the places of files can be counted on
(`lawful_disk`).
-/

namespace Typeforge.Memory

variable {t t' : Tree} {absolute : Bool} {parts : List String} {l : Location}

def Tree.fileAt? (t : Tree) (l : Location) : Option (Option String) :=
  match t.root.at? l with
  | some (.file text) => some text
  | _ => none

theorem fileAt?_eq_some_iff {text : Option String} : t.fileAt? l = some text ↔ t.root.at? l = some (.file text) := by
  unfold Tree.fileAt?
  split <;> simp_all

/-- The second tree has the files of the first, and its working directory. -/
def SameFiles (t t' : Tree) : Prop := t'.here = t.here ∧ t'.fileAt? = t.fileAt?

theorem SameFiles.refl (t : Tree) : SameFiles t t := ⟨rfl, rfl⟩

theorem SameFiles.trans {t₁ t₂ t₃ : Tree} (h : SameFiles t₁ t₂) (h' : SameFiles t₂ t₃) : SameFiles t₁ t₃ :=
  ⟨h'.1.trans h.1, h'.2.trans h.2⟩

theorem sameFiles_createDirectory (h : t.createDirectory absolute parts = .ok t') : SameFiles t t' := by
  obtain ⟨p, hstart, h⟩ := bind_ok_iff.1 h
  obtain ⟨⟨above, name⟩, htarget, h⟩ := bind_ok_iff.1 h
  obtain ⟨before, last, hparts⟩ : ∃ before last, parts = before ++ [last] := by
    refine (List.eq_nil_or_concat' parts).resolve_left ?_
    rintro rfl
    cases htarget
  obtain ⟨hfollow, rfl, ⟨children, hentry⟩, -⟩ := target_ok hparts htarget
  have habove := ((Place.In.root.of_follow hstart).1.of_follow hfollow).1.at?_location
  rw [hentry] at habove
  dsimp only at h
  split at h
  · cases h
  · rename_i hfree
    cases h
    refine ⟨rfl, funext fun l => Option.ext fun text => ?_⟩
    rw [fileAt?_eq_some_iff, fileAt?_eq_some_iff]
    refine Entry.at?_put_directory ⟨children, habove⟩ ?_ l text
    have hnothing : name ≠ ".." ∧ Keyed.get? children name = none := by simpa [hentry, Entry.child?] using hfree
    rw [Entry.at?_concat habove, hnothing.2]

theorem sameFiles_ensureDirectory (h : t.ensureDirectory absolute parts = .ok t') : SameFiles t t' := by
  unfold Tree.ensureDirectory at h
  split at h
  · rename_i hmade
    cases h
    exact sameFiles_createDirectory hmade
  · split at h
    · cases h
      exact SameFiles.refl _
    · cases h

theorem sameFiles_createAll (h : t.createAll absolute parts = .ok t') : SameFiles t t' := by
  induction parts generalizing t' with
  | nil =>
    cases h
    exact SameFiles.refl _
  | cons name above ih =>
    rw [Tree.createAll] at h
    split at h
    · obtain ⟨t₁, habove, hlast⟩ := bind_ok_iff.1 h
      exact (ih habove).trans (sameFiles_ensureDirectory hlast)
    · exact sameFiles_ensureDirectory h

theorem sameFiles_createDirectories {path : String} (h : t.createDirectories path = .ok t') : SameFiles t t' := by
  obtain ⟨⟨⟩, -, h⟩ := bind_ok_iff.1 h
  split at h
  · dsimp only at h
    split at h
    · cases h
      exact SameFiles.refl _
    · obtain ⟨t₁, hmade, h⟩ := bind_ok_iff.1 h
      obtain ⟨⟨⟩, -, h⟩ := bind_ok_iff.1 h
      cases h
      exact sameFiles_createAll hmade
    · cases h
  · exact sameFiles_createAll h

/-- A file that is taken is put at its place, and nothing else changes. -/
theorem wrote_of_writeText {directory : String} {f : File}
    (h : t.writeText (Path.join directory f.path) f.text = .ok t') :
    t'.here = t.here ∧ Entry.Wrote t.root.at? t'.root.at? (placeOf t.here directory f) f.text := by
  obtain ⟨before, name, hnamed⟩ := exists_named_join directory f
  exact (writeText_ok hnamed h).2

/-- **A tree in memory is a lawful disk**: a path leads where its parts lead, whatever is there. -/
theorem lawful_disk : Disk.Lawful disk (fun t path => locate t.here path) Tree.fileAt? (some ∘ some) where
  read _ _ := rfl
  places_made path t := by
    rw [disk_createDirectories]
    cases hmade : t.createDirectories path with
    | error e => rfl
    | ok t' => rw [(sameFiles_createDirectories hmade).1]
  made path t := by
    rw [disk_createDirectories]
    cases hmade : t.createDirectories path with
    | error e => rfl
    | ok t' => exact (sameFiles_createDirectories hmade).2
  places_written directory f t := by
    rw [disk_writeText]
    cases hwrite : t.writeText (Path.join directory f.path) f.text with
    | error e => rfl
    | ok t' => rw [(wrote_of_writeText hwrite).1]
  elsewhere directory f t l hl := by
    rw [disk_writeText]
    cases hwrite : t.writeText (Path.join directory f.path) f.text with
    | error e => rfl
    | ok t' =>
      refine Option.ext fun text => ?_
      rw [fileAt?_eq_some_iff, fileAt?_eq_some_iff]
      exact (wrote_of_writeText hwrite).2.files l hl text
  written directory f t t' h := fileAt?_eq_some_iff.2 (wrote_of_writeText (disk_writeText_ok_iff.1 h)).2.here

end Typeforge.Memory
