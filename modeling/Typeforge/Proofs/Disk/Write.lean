import Typeforge.Proofs.Disk.InTurn
import Typeforge.Proofs.Disk.Path
import Typeforge.Proofs.Disk.Tree

/-!
# Files that are written in turn

A path leads to one location of a tree, whatever its files are (`locate`). A text that was written is read back
there until another one is written there, so after a run every path holds the last of the files that were written
where it leads (`Written`).
-/

namespace Typeforge.Memory

variable {t t' : Tree} {directory path text : String} {before : List String} {name : String}

/-! ### One file -/

/-- The names from the root to where a path begins. -/
def origin (here : Location) (path : String) : List String := if Path.isAbsolute path then [] else here

/-- Where a path leads that is followed from a working directory. -/
def locate (here : Location) (path : String) : Location := (origin here path ++ Path.parts path).foldl next []

/-- The path leads over directories to the one that its name is in, or may be put in. -/
structure Leads (t : Tree) (path : String) : Prop where
  taken : Tree.checkPath path = .ok ()
  named : ∃ before name, Path.Named path before name ∧ name.utf8ByteSize ≤ Place.maxNameSize ∧
    Passes t.root [] (origin t.here path ++ before)

theorem locate_of_named (here : Location) (h : Path.Named path before name) :
    locate here path = (origin here path ++ before).foldl next [] ++ [name] := by
  rw [locate, h.parts, ← List.append_assoc, List.foldl_append, List.foldl_cons, List.foldl_nil, next, if_neg h.up]

theorem Leads.of_directories (hhere : t'.here = t.here)
    (hsame : ∀ q, t.root.IsDirectory q → t'.root.IsDirectory q) (h : Leads t path) : Leads t' path where
  taken := h.taken
  named := by
    obtain ⟨before, name, hnamed, hfits, hpasses⟩ := h.named
    exact ⟨before, name, hnamed, hfits, hhere ▸ hpasses.of_directories hsame⟩

/-- To where a path begins and then by its parts is one way from the root. -/
theorem start_follow (t : Tree) (path : String) (names : List String) :
    (t.start (Path.isAbsolute path) >>= fun p => p.follow names)
      = Place.follow ⟨t.root, []⟩ (origin t.here path ++ names) := by
  rw [Tree.start, Place.follow, Place.follow, List.foldlM_append]
  rfl

theorem of_start_follow {p above : Place} (hstart : t.start (Path.isAbsolute path) = .ok p)
    (hfollow : p.follow before = .ok above) : Place.In t.root above ∧
      above.location = (origin t.here path ++ before).foldl next [] ∧
      (t.root.IsDirectory above.location → Passes t.root [] (origin t.here path ++ before)) := by
  have hway : Place.follow ⟨t.root, []⟩ (origin t.here path ++ before) = .ok above := by
    rw [← start_follow, hstart]
    exact hfollow
  exact Place.In.root.of_follow hway

theorem exists_start_follow (h : Passes t.root [] (origin t.here path ++ before)) :
    ∃ p above, t.start (Path.isAbsolute path) = .ok p ∧ p.follow before = .ok above := by
  obtain ⟨above, hway⟩ := Place.In.root.exists_follow h
  rw [← start_follow] at hway
  obtain ⟨p, hstart, hfollow⟩ := bind_ok_iff.1 hway
  exact ⟨p, above, hstart, hfollow⟩

theorem target_ok {p above : Place} {parts : List String} {last : String} (hparts : parts = before ++ [name])
    (h : p.target parts = .ok (above, last)) : p.follow before = .ok above ∧ last = name ∧
      (∃ children, above.entry = .directory children) ∧ name.utf8ByteSize ≤ Place.maxNameSize := by
  rw [hparts, Place.target, List.getLast?_concat, List.dropLast_concat] at h
  obtain ⟨q, hfollow, hq⟩ := bind_ok_iff.1 h
  split at hq
  · rename_i children hentry
    split at hq
    · cases hq
    · rename_i hfits
      cases hq
      exact ⟨hfollow, rfl, ⟨children, hentry⟩, Nat.not_lt.1 hfits⟩
  · cases hq

/-- **A text that is written** is put where the path leads. -/
theorem writeText_ok (hnamed : Path.Named path before name) (h : t.writeText path text = .ok t') : Leads t path ∧
    t'.here = t.here ∧ Entry.Wrote t.root.at? t'.root.at? (locate t.here path) text := by
  obtain ⟨⟨⟩, htaken, h⟩ := bind_ok_iff.1 h
  obtain ⟨p, hstart, h⟩ := bind_ok_iff.1 h
  obtain ⟨⟨above, last⟩, htarget, h⟩ := bind_ok_iff.1 h
  obtain ⟨hfollow, rfl, ⟨children, hentry⟩, hfits⟩ := target_ok hnamed.parts htarget
  obtain ⟨habove, hlocation, hpasses⟩ := of_start_follow hstart hfollow
  have hdirectory : t.root.IsDirectory above.location := ⟨children, hentry ▸ habove.at?_location⟩
  have hchild : above.entry.child? last = t.root.at? (above.location ++ [last]) := by
    rw [hentry, Entry.at?_concat (hentry ▸ habove.at?_location)]
    rfl
  simp only [hchild] at h
  refine ⟨⟨htaken, before, last, hnamed, hfits, hpasses hdirectory⟩, ?_⟩
  rw [locate_of_named _ hnamed, ← hlocation]
  split at h
  · cases h
  · rename_i hnot
    cases h
    exact ⟨rfl, Entry.wrote_put hdirectory fun ⟨children, hnamesake⟩ => hnot children hnamesake⟩

/-- **A text is read** from where the path leads. -/
theorem readText_of_leads (h : Leads t path) (htext : t.root.at? (locate t.here path) = some (.file (some text))) :
    t.readText path = .ok text := by
  obtain ⟨before, name, hnamed, hfits, hpasses⟩ := h.named
  rw [locate_of_named _ hnamed] at htext
  obtain ⟨p, above, hstart, hfollow⟩ := exists_start_follow hpasses
  obtain ⟨habove, hlocation, -⟩ := of_start_follow hstart hfollow
  obtain ⟨children, hchildren⟩ := hpasses.isDirectory_end
  rw [Entry.at?_concat hchildren] at htext
  have hentry : above.entry = .directory children := by
    rw [← hlocation] at hchildren
    exact Option.some.inj (habove.at?_location.symm.trans hchildren)
  have hstep : above.step name = .ok ⟨.file (some text), (name, above.entry) :: above.way⟩ := by
    simp only [Place.step, hentry, beq_iff_eq, htext]
    rw [if_neg hnamed.up, if_neg (Nat.not_lt.2 hfits)]
  have hlast : p.follow (Path.parts path) = .ok ⟨.file (some text), (name, above.entry) :: above.way⟩ := by
    rw [hnamed.parts, Place.follow, List.foldlM_append]
    refine bind_ok_iff.2 ⟨above, hfollow, ?_⟩
    rw [List.foldlM_cons, hstep]
    rfl
  refine bind_ok_iff.2 ⟨⟨⟩, h.taken, bind_ok_iff.2 ⟨p, hstart, bind_ok_iff.2 ⟨_, hlast, ?_⟩⟩⟩
  simp only [hnamed.plain, Bool.false_eq_true, if_false]

/-! ### Files in turn -/

section Run

variable {files : List File} {f g : File} {paths : List String} {l : Location}

/-- Where a file goes that is written below a directory. -/
def placeOf (here : Location) (directory : String) (f : File) : Location := locate here (Path.join directory f.path)

theorem toList_path (f : File) : f.path.toList = f.id.toList ++ Path.extension := by
  rw [File.path, String.toList_append]
  rfl

theorem exists_named_join (directory : String) (f : File) : ∃ before name,
    Path.Named (Path.join directory f.path) before name := by
  obtain ⟨cs, hcs⟩ : ∃ cs, (Path.join directory f.path).toList = cs ++ Path.extension := by
    have hpath := toList_path f
    unfold Path.join
    split
    · exact ⟨_, hpath⟩
    · split
      · exact ⟨directory.toList ++ f.id.toList, by rw [String.toList_append, hpath, List.append_assoc]⟩
      · exact ⟨(directory ++ "/").toList ++ f.id.toList, by rw [String.toList_append, hpath, List.append_assoc]⟩
  obtain ⟨before, name, hnamed⟩ := Path.exists_named cs
  rw [← hcs, String.ofList_toList] at hnamed
  exact ⟨before, name, hnamed⟩

/-- The file is the last of those that go to the location. -/
structure LastAt (here : Location) (directory : String) (files : List File) (l : Location) (g : File) : Prop where
  split : ∃ before after, files = before ++ g :: after ∧ ∀ f ∈ after, placeOf here directory f ≠ l
  there : placeOf here directory g = l

/-- What a run of writes leaves of the tree that it began with. -/
structure Ran (directory : String) (files : List File) (paths : List String) (t t' : Tree) : Prop where
  paths : paths = files.map fun f => Path.join directory f.path
  here : t'.here = t.here
  directories : ∀ q, t'.root.IsDirectory q ↔ t.root.IsDirectory q
  leads : ∀ f ∈ files, Leads t (Path.join directory f.path)
  /-- Where files went there is the last of them, and elsewhere what was there. -/
  texts : ∀ l, (∃ g, LastAt t.here directory files l g ∧ t'.root.at? l = some (.file (some g.text))) ∨
    (∀ g ∈ files, placeOf t.here directory g ≠ l) ∧
      ∀ text, t'.root.at? l = some (.file text) ↔ t.root.at? l = some (.file text)

theorem Ran.nil (directory : String) (t : Tree) : Ran directory [] [] t t where
  paths := rfl
  here := rfl
  directories _ := Iff.rfl
  leads := by simp
  texts _ := .inr ⟨by simp, fun _ => Iff.rfl⟩

/-- One more write before a run. -/
theorem Ran.cons {t₁ : Tree} (h : t.writeText (Path.join directory f.path) f.text = .ok t₁)
    (hran : Ran directory files paths t₁ t') :
    Ran directory (f :: files) (Path.join directory f.path :: paths) t t' := by
  obtain ⟨before, name, hnamed⟩ := exists_named_join directory f
  obtain ⟨hleads, hhere, hwrote⟩ := writeText_ok hnamed h
  refine ⟨by rw [hran.paths]; rfl, hran.here.trans hhere, fun q => (hran.directories q).trans (hwrote.directories q),
    ?_, fun l => ?_⟩
  · intro g hg
    rcases List.mem_cons.1 hg with rfl | hg
    · exact hleads
    · exact (hran.leads g hg).of_directories hhere.symm fun q => (hwrote.directories q).1
  · have htexts := hran.texts l
    rw [hhere] at htexts
    rcases htexts with ⟨g, ⟨⟨ahead, after, rfl, hafter⟩, hthere⟩, htext⟩ | ⟨hnone, hkept⟩
    · exact .inl ⟨g, ⟨⟨f :: ahead, after, rfl, hafter⟩, hthere⟩, htext⟩
    · by_cases hl : placeOf t.here directory f = l
      · refine .inl ⟨f, ⟨⟨[], files, rfl, hnone⟩, hl⟩, (hkept _).2 ?_⟩
        rw [← hl]
        exact hwrote.here
      · refine .inr ⟨?_, fun text => (hkept text).trans (hwrote.files l (Ne.symm hl) text)⟩
        intro g hg
        rcases List.mem_cons.1 hg with rfl | hg
        · exact hl
        · exact hnone g hg

theorem disk_writeText (path text : String) (t : Tree) : disk.writeText path text t =
    match t.writeText path text with
    | .ok t₁ => (.ok (), t₁)
    | .error e => (.error e, t) := rfl

theorem disk_createDirectories (path : String) (t : Tree) : disk.createDirectories path t =
    match t.createDirectories path with
    | .ok t₁ => (.ok (), t₁)
    | .error e => (.error e, t) := rfl

theorem disk_writeText_ok_iff : disk.writeText path text t = (.ok (), t') ↔ t.writeText path text = .ok t' := by
  rw [disk_writeText]
  cases t.writeText path text with
  | error e => exact iff_of_false nofun nofun
  | ok t₁ => exact ⟨fun h => congrArg Except.ok (Prod.mk.inj h).2, fun h => Except.ok.inj h ▸ rfl⟩

/-- **What is left by a run of writes** that comes to its end. -/
theorem ran_of_inTurn (h : disk.InTurn directory files t t') :
    Ran directory files (files.map fun f => Path.join directory f.path) t t' := by
  induction h with
  | nil => exact Ran.nil directory _
  | cons first _ ih => exact Ran.cons (disk_writeText_ok_iff.1 first) ih

/-- How the files stand that a run wrote below a directory. -/
structure Written (directory : String) (files : List File) (paths : List String) (t : Tree) : Prop where
  paths : paths = files.map fun f => Path.join directory f.path
  /-- A path holds the last of the files that go where it leads. -/
  last : ∀ f ∈ files, ∃ g, LastAt t.here directory files (placeOf t.here directory f) g ∧
    t.readText (Path.join directory f.path) = .ok g.text
  /-- So each path holds its own file just if files that go to one place have one text. -/
  own_iff : (∀ f ∈ files, t.readText (Path.join directory f.path) = .ok f.text) ↔
    ∀ f ∈ files, ∀ g ∈ files, placeOf t.here directory f = placeOf t.here directory g → f.text = g.text

theorem LastAt.mem {here : Location} (h : LastAt here directory files l g) : g ∈ files := by
  obtain ⟨before, after, rfl, -⟩ := h.split
  exact List.mem_append_right _ List.mem_cons_self

theorem Ran.exists_last (h : Ran directory files paths t t') (hf : f ∈ files) : ∃ g,
    LastAt t'.here directory files (placeOf t'.here directory f) g ∧
      t'.root.at? (placeOf t'.here directory f) = some (.file (some g.text)) := by
  rw [h.here]
  rcases h.texts (placeOf t.here directory f) with hlast | ⟨hnone, -⟩
  · exact hlast
  · exact absurd rfl (hnone f hf)

theorem Ran.written (h : Ran directory files paths t t') : Written directory files paths t' := by
  have hread {f : File} (hf : f ∈ files) {text : String}
      (htext : t'.root.at? (placeOf t'.here directory f) = some (.file (some text))) :
      t'.readText (Path.join directory f.path) = .ok text :=
    readText_of_leads ((h.leads f hf).of_directories h.here fun q => (h.directories q).2) htext
  refine ⟨h.paths, fun f hf => ?_, fun hown f hf g hg hsame => ?_, fun hsame f hf => ?_⟩
  · obtain ⟨g, hlast, htext⟩ := h.exists_last hf
    exact ⟨g, hlast, hread hf htext⟩
  · obtain ⟨k, -, htext⟩ := h.exists_last hf
    have hfk := (hown f hf).symm.trans (hread hf htext)
    have hgk := (hown g hg).symm.trans (hread hg (hsame ▸ htext))
    exact Except.ok.inj (hfk.trans hgk.symm)
  · obtain ⟨g, hlast, htext⟩ := h.exists_last hf
    rw [hread hf htext, hsame f hf g hlast.mem hlast.there.symm]

/-- **What a run writes** stands where its paths lead, as far as no later file of the run goes there. -/
theorem written_of_writeFiles (h : disk.writeFiles directory files t = (.ok paths, t')) :
    Written directory files paths t' := by
  cases Disk.writeFiles_iff.1 h with
  | done make turns => exact (ran_of_inTurn turns).written

/-! ### Places apart -/

theorem foldl_next {names : List String} (hdown : ".." ∉ names) (l : Location) : names.foldl next l = l ++ names := by
  induction names generalizing l with
  | nil => rw [List.append_nil]; rfl
  | cons name names ih =>
    have hname : name ≠ ".." := (List.ne_of_not_mem_cons hdown).symm
    rw [List.foldl_cons, next, if_neg hname, ih (List.not_mem_of_not_mem_cons hdown), List.append_assoc]
    rfl

/-- A path that only goes down leads below the directory, by its parts. -/
theorem placeOf_of_down (here : Location) (directory : String) (h : Path.Down f.path) :
    placeOf here directory f = locate here directory ++ Path.parts f.path := by
  rw [placeOf, locate, origin, Path.isAbsolute_join h.relative, Path.parts_join h.relative, ← List.append_assoc,
    List.foldl_append, foldl_next h.parts]
  rfl

theorem placeOf_eq_iff (here : Location) (directory : String) (hf : Path.Down f.path) (hg : Path.Down g.path) :
    placeOf here directory f = placeOf here directory g ↔ Path.parts f.path = Path.parts g.path := by
  rw [placeOf_of_down here directory hf, placeOf_of_down here directory hg, List.append_right_inj]

theorem nodup_places (here : Location) (directory : String) (hkeys : (files.map (·.id)).Nodup)
    (hplain : ∀ f ∈ files, '/' ∉ f.id.toList) : (files.map (placeOf here directory)).Nodup := by
  refine (List.Nodup.of_map _ hkeys).map_on fun f hf g hg hsame => List.inj_on_of_nodup_map hkeys hf hg ?_
  have hpath (f : File) : f.path = String.ofList (f.id.toList ++ Path.extension) := by
    rw [← toList_path, String.ofList_toList]
  have hdown {f : File} (hf : f ∈ files) : Path.Down f.path := hpath f ▸ Path.down_extension (hplain f hf)
  have hparts {f : File} (hf : f ∈ files) : Path.parts f.path = [f.path] := by
    rw [hpath, Path.parts_extension (hplain f hf)]
  rw [placeOf_eq_iff here directory (hdown hf) (hdown hg), hparts hf, hparts hg, List.singleton_inj] at hsame
  have hchars := congrArg String.toList hsame
  rw [toList_path, toList_path] at hchars
  exact String.toList_injective (List.append_cancel_right hchars)

end Run

end Typeforge.Memory
