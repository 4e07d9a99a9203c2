import Typeforge.Disk.Memory
import Typeforge.Proofs.Keyed
import Typeforge.Proofs.Steps

/-!
# Ways in a tree

Where a path leads is told by its parts alone, and whether there is a way by the directories of the tree (`Passes`).
A file that is put into a directory changes no directory and no other file (`Wrote`), so every way stays.
-/

namespace Typeforge.Memory

/-! ### Entries -/

namespace Entry

variable {e c : Entry} {children : List (String × Entry)} {l : Location} {name text : String}

def IsDirectory (e : Entry) (l : Location) : Prop := ∃ children, e.at? l = some (.directory children)

theorem at?_append (e : Entry) (l l' : Location) : e.at? (l ++ l') = (e.at? l).bind fun c => c.at? l' := by
  induction l generalizing e with
  | nil => rfl
  | cons name l ih =>
    rw [List.cons_append, at?, at?]
    cases e.child? name with
    | none => rfl
    | some c => exact ih c

theorem at?_directory_cons (name : String) (l : Location) : (Entry.directory children).at? (name :: l) =
    (Keyed.get? children name).bind fun c => c.at? l := by
  rw [at?, child?]
  cases Keyed.get? children name <;> rfl

theorem at?_concat (h : e.at? l = some (.directory children)) : e.at? (l ++ [name]) = Keyed.get? children name := by
  rw [at?_append, h, Option.bind_some, at?_directory_cons]
  cases Keyed.get? children name <;> rfl

theorem at?_put_child (n : String) (l : Location) : (Entry.directory (Keyed.put children name c)).at? (n :: l)
    = if name = n then c.at? l else (Entry.directory children).at? (n :: l) := by
  rw [at?_directory_cons, at?_directory_cons, Keyed.get?_put]
  by_cases hn : name = n
  · rw [if_pos hn, if_pos hn]
    rfl
  · rw [if_neg hn, if_neg hn]

/-- What is found at the locations, before and after a file is put at one of them. -/
structure Wrote (found found' : Location → Option Entry) (l : Location) (text : String) : Prop where
  here : found' l = some (.file (some text))
  files : ∀ q ≠ l, ∀ t, found' q = some (.file t) ↔ found q = some (.file t)
  directories : ∀ q, (∃ children, found' q = some (.directory children)) ↔
    ∃ children, found q = some (.directory children)

theorem Wrote.under (h : Wrote (fun q => (Entry.directory children).at? (name :: q)) c.at? l text) :
    Wrote (Entry.directory children).at? (Entry.directory (Keyed.put children name c)).at? (name :: l) text where
  here := by rw [at?_put_child, if_pos rfl, h.here]
  files := by
    intro q hq t
    cases q with
    | nil => simp [at?]
    | cons n q =>
      rw [at?_put_child]
      by_cases hn : name = n
      · subst hn
        rw [if_pos rfl]
        exact h.files q (fun heq => hq (heq ▸ rfl)) t
      · rw [if_neg hn]
  directories := by
    intro q
    cases q with
    | nil => exact iff_of_true ⟨_, rfl⟩ ⟨_, rfl⟩
    | cons n q =>
      rw [at?_put_child]
      by_cases hn : name = n
      · subst hn
        rw [if_pos rfl]
        exact h.directories q
      · rw [if_neg hn]

theorem at?_below (h : ¬ e.IsDirectory l) (name : String) (q : Location) : e.at? (l ++ name :: q) = none := by
  rw [at?_append]
  cases hl : e.at? l with
  | none => rfl
  | some c =>
    cases c with
    | file t => rfl
    | directory children => exact absurd ⟨children, hl⟩ h

theorem wrote_file {found : Location → Option Entry} (hnone : ∀ n q, found (n :: q) = none)
    (hnot : ¬ ∃ children, found [] = some (.directory children)) :
    Wrote found (Entry.file (some text)).at? [] text where
  here := rfl
  files := by
    intro q hq t
    cases q with
    | nil => exact absurd rfl hq
    | cons n q => rw [hnone]; simp [at?, child?]
  directories := by
    intro q
    cases q with
    | nil => exact iff_of_false (by simp [at?]) hnot
    | cons n q => rw [hnone]; simp [at?, child?]

/-- **A file that is put into a directory** is there, and is all that changes. -/
theorem wrote_put (hl : e.IsDirectory l) (hname : ¬ e.IsDirectory (l ++ [name])) :
    Wrote e.at? (e.put (.file (some text)) (l ++ [name])).at? (l ++ [name]) text := by
  induction l generalizing e with
  | nil =>
    obtain ⟨children, hchildren⟩ := hl
    cases hchildren
    exact Wrote.under (wrote_file (at?_below hname) hname)
  | cons n l ih =>
    obtain ⟨children, hchildren⟩ := hl
    cases e with
    | file t => cases hchildren
    | directory entries =>
      rw [at?_directory_cons, Option.bind_eq_some_iff] at hchildren
      obtain ⟨c, hc, hdirectory⟩ := hchildren
      have hbelow (q : Location) : (Entry.directory entries).at? (n :: q) = c.at? q := by
        rw [at?_directory_cons, hc, Option.bind_some]
      rw [List.cons_append, IsDirectory, hbelow] at hname
      have hput := ih (e := c) ⟨children, hdirectory⟩ hname
      rw [List.cons_append, put, hc, Option.getD_some]
      exact Wrote.under (by simpa only [hbelow] using hput)

/-- **A directory that is put where nothing is** brings no file, and takes none away. -/
theorem at?_put_directory (hl : e.IsDirectory l) (hfree : e.at? (l ++ [name]) = none) (q : Location)
    (text : Option String) :
    (e.put (.directory []) (l ++ [name])).at? q = some (.file text) ↔ e.at? q = some (.file text) := by
  obtain ⟨children, hchildren⟩ := hl
  induction l generalizing e q with
  | nil =>
    cases hchildren
    rw [List.nil_append, at?_directory_cons] at hfree
    cases q with
    | nil => simp [put, at?]
    | cons n q =>
      rw [List.nil_append, put, put, at?_put_child]
      by_cases hn : name = n
      · subst hn
        have hnone : Keyed.get? children name = none := by
          cases hget : Keyed.get? children name with
          | none => rfl
          | some c => rw [hget] at hfree; cases hfree
        rw [if_pos rfl, at?_directory_cons, hnone]
        cases q <;> simp [at?, child?, Keyed.get?]
      · rw [if_neg hn]
  | cons n l ih =>
    cases e with
    | file t => cases hchildren
    | directory entries =>
      rw [at?_directory_cons, Option.bind_eq_some_iff] at hchildren
      obtain ⟨c, hc, hdirectory⟩ := hchildren
      have hbelow (q : Location) : (Entry.directory entries).at? (n :: q) = c.at? q := by
        rw [at?_directory_cons, hc, Option.bind_some]
      rw [List.cons_append, hbelow] at hfree
      rw [List.cons_append, put, hc, Option.getD_some]
      cases q with
      | nil => simp [at?]
      | cons m q =>
        rw [at?_put_child]
        by_cases hm : n = m
        · subst hm
          rw [if_pos rfl, hbelow]
          exact ih hfree q hdirectory
        · rw [if_neg hm]

end Entry

/-! ### Places -/

/-- Where a part of a path leads from a location. -/
def next (l : Location) (name : String) : Location := if name = ".." then l.dropLast else l ++ [name]

/-- The parts lead from one directory to the next, and end in one. -/
def Passes (root : Entry) (l : Location) : List String → Prop
  | [] => root.IsDirectory l
  | name :: names =>
    root.IsDirectory l ∧ (name = ".." ∨ name.utf8ByteSize ≤ Place.maxNameSize) ∧ Passes root (next l name) names

namespace Passes

variable {root root' : Entry} {l : Location} {names : List String}

theorem isDirectory_start (h : Passes root l names) : root.IsDirectory l := by
  cases names with
  | nil => exact h
  | cons name names => exact h.1

theorem isDirectory_end (h : Passes root l names) : root.IsDirectory (names.foldl next l) := by
  induction names generalizing l with
  | nil => exact h
  | cons name names ih => exact ih h.2.2

theorem of_directories (hsame : ∀ q, root.IsDirectory q → root'.IsDirectory q) (h : Passes root l names) :
    Passes root' l names := by
  induction names generalizing l with
  | nil => exact hsame l h
  | cons name names ih => exact ⟨hsame l h.1, h.2.1, ih h.2.2⟩

end Passes

namespace Place

variable {root : Entry} {p p' : Place} {name : String} {names : List String}

/-- The place is in the tree: each entry on the way to it is what its name finds in the one before. -/
inductive In (root : Entry) : Place → Prop
  | root : In root ⟨root, []⟩
  | child {children way name e} : In root ⟨.directory children, way⟩ → Keyed.get? children name = some e →
      In root ⟨e, (name, .directory children) :: way⟩

theorem location_cons (e above : Entry) (way : List (String × Entry)) :
    location ⟨e, (name, above) :: way⟩ = location ⟨above, way⟩ ++ [name] := by
  simp [location]

theorem In.at?_location (h : In root p) : root.at? p.location = some p.entry := by
  induction h with
  | root => rfl
  | child _ hchild ih => rw [location_cons, Entry.at?_concat ih, hchild]

/-- A step leads from a directory, and where the name alone tells. -/
theorem In.of_step (h : In root p) (hstep : p.step name = .ok p') : In root p' ∧ p'.location = next p.location name ∧
    root.IsDirectory p.location ∧ (name = ".." ∨ name.utf8ByteSize ≤ maxNameSize) := by
  obtain ⟨entry, way⟩ := p
  cases entry with
  | file t => cases hstep
  | directory children =>
    have hdirectory : root.IsDirectory (location ⟨.directory children, way⟩) := ⟨children, h.at?_location⟩
    simp only [step, beq_iff_eq] at hstep
    by_cases hup : name = ".."
    · rw [if_pos hup] at hstep
      rw [next, if_pos hup]
      cases h with
      | root =>
        cases hstep
        exact ⟨.root, rfl, hdirectory, .inl hup⟩
      | child habove _ =>
        cases hstep
        exact ⟨habove, by rw [location_cons, List.dropLast_concat], hdirectory, .inl hup⟩
    · rw [if_neg hup] at hstep
      rw [next, if_neg hup]
      split at hstep
      · cases hstep
      · rename_i hfits
        split at hstep
        · rename_i e hchild
          cases hstep
          exact ⟨.child h hchild, location_cons _ _ _, hdirectory, .inr (Nat.not_lt.1 hfits)⟩
        · cases hstep

theorem In.exists_step (h : In root p) (hdirectory : root.IsDirectory p.location)
    (hname : name = ".." ∨ name.utf8ByteSize ≤ maxNameSize) (hnext : root.IsDirectory (next p.location name)) :
    ∃ p', p.step name = .ok p' := by
  obtain ⟨children, hchildren⟩ := hdirectory
  have hentry : p.entry = .directory children := Option.some.inj (h.at?_location.symm.trans hchildren)
  simp only [step, hentry, beq_iff_eq]
  by_cases hup : name = ".."
  · rw [if_pos hup]
    split
    · exact ⟨_, rfl⟩
    · exact ⟨_, rfl⟩
  · rw [if_neg hup, if_neg (Nat.not_lt.2 (hname.resolve_left hup))]
    rw [next, if_neg hup] at hnext
    obtain ⟨_, hchild⟩ := hnext
    rw [Entry.at?_concat hchildren] at hchild
    rw [hchild]
    exact ⟨_, rfl⟩

theorem In.of_follow (h : In root p) (hfollow : p.follow names = .ok p') : In root p' ∧
    p'.location = names.foldl next p.location ∧ (root.IsDirectory p'.location → Passes root p.location names) := by
  induction names generalizing p with
  | nil =>
    cases hfollow
    exact ⟨h, rfl, id⟩
  | cons name names ih =>
    obtain ⟨q, hstep, hrest⟩ := foldlM_cons_ok hfollow
    obtain ⟨hq, hlocation, hdirectory, hname⟩ := h.of_step hstep
    obtain ⟨hp', hend, hpasses⟩ := ih hq hrest
    rw [hlocation] at hend hpasses
    exact ⟨hp', hend, fun hlast => ⟨hdirectory, hname, hpasses hlast⟩⟩

theorem In.exists_follow (h : In root p) (hpasses : Passes root p.location names) : ∃ p', p.follow names = .ok p' := by
  induction names generalizing p with
  | nil => exact ⟨p, rfl⟩
  | cons name names ih =>
    obtain ⟨hdirectory, hname, hrest⟩ := hpasses
    obtain ⟨q, hstep⟩ := h.exists_step hdirectory hname hrest.isDirectory_start
    obtain ⟨hq, hlocation, -⟩ := h.of_step hstep
    obtain ⟨p', hfollow⟩ := ih hq (hlocation ▸ hrest)
    refine ⟨p', ?_⟩
    rw [follow, List.foldlM_cons, hstep]
    exact hfollow

end Place

end Typeforge.Memory
