import Typeforge.Disk.Path
import Mathlib.Data.List.Basic

/-!
# The parts of a path

A slash divides a path: its parts are those before the slash and those after it (`parts_append_slash`). So a path
below a directory has the parts of the directory and then its own (`parts_join`), whether or not the directory is
written with a slash at its end. A path with an extension ends in a part that is neither a point nor two (`Named`).
-/

namespace Typeforge.Path

/-! ### Segments -/

section Segments

variable {cs ds : List Char}

theorem segmentsFrom_ne_nil (cs : List Char) : segmentsFrom cs ≠ [] := by
  cases cs with
  | nil => simp [segmentsFrom]
  | cons c cs =>
    rw [segmentsFrom]
    split
    · simp
    · split <;> simp

theorem segmentsFrom_cons (cs : List Char) {c : Char} (hc : c ≠ '/') : ∃ s ss, segmentsFrom cs = s :: ss ∧
    segmentsFrom (c :: cs) = (c :: s) :: ss := by
  obtain ⟨s, ss, hss⟩ := List.exists_cons_of_ne_nil (segmentsFrom_ne_nil cs)
  exact ⟨s, ss, hss, by rw [segmentsFrom, if_neg hc, hss]⟩

theorem segmentsFrom_append_slash (cs ds : List Char) :
    segmentsFrom (cs ++ '/' :: ds) = segmentsFrom cs ++ segmentsFrom ds := by
  induction cs with
  | nil => simp [segmentsFrom]
  | cons c cs ih =>
    by_cases hc : c = '/'
    · subst hc
      simp only [List.cons_append, segmentsFrom, if_true, ih]
    · obtain ⟨s, ss, hss, hcons⟩ := segmentsFrom_cons cs hc
      obtain ⟨s', ss', hss', hcons'⟩ := segmentsFrom_cons (cs ++ '/' :: ds) hc
      rw [ih, hss, List.cons_append] at hss'
      obtain ⟨rfl, rfl⟩ := List.cons.inj hss'
      rw [List.cons_append, hcons', hcons, List.cons_append]

theorem segmentsFrom_of_not_mem (h : '/' ∉ cs) : segmentsFrom cs = [cs] := by
  induction cs with
  | nil => rfl
  | cons c cs ih =>
    have hc : c ≠ '/' := (List.ne_of_not_mem_cons h).symm
    obtain ⟨s, ss, hss, hcons⟩ := segmentsFrom_cons cs hc
    rw [ih (List.not_mem_of_not_mem_cons h)] at hss
    obtain ⟨rfl, rfl⟩ := List.cons.inj hss
    exact hcons

theorem exists_segmentsFrom_append (cs : List Char) (hds : '/' ∉ ds) : ∃ before last,
    segmentsFrom (cs ++ ds) = before ++ [last ++ ds] := by
  induction cs with
  | nil => exact ⟨[], [], segmentsFrom_of_not_mem hds⟩
  | cons c cs ih =>
    obtain ⟨before, last, hlast⟩ := ih
    by_cases hc : c = '/'
    · subst hc
      refine ⟨[] :: before, last, ?_⟩
      rw [List.cons_append, segmentsFrom, if_pos rfl, hlast, List.cons_append]
    · obtain ⟨s, ss, hss, hcons⟩ := segmentsFrom_cons (cs ++ ds) hc
      rw [hlast] at hss
      rw [List.cons_append, hcons]
      cases before with
      | nil =>
        obtain ⟨rfl, rfl⟩ := List.cons.inj hss
        exact ⟨[], c :: last, rfl⟩
      | cons s' before =>
        obtain ⟨rfl, rfl⟩ := List.cons.inj hss
        exact ⟨(c :: s') :: before, last, rfl⟩

end Segments

/-! ### Parts -/

section Parts

variable {directory path : String}

/-- The segments that lead somewhere. -/
def partsOf (segments : List (List Char)) : List String :=
  (segments.map String.ofList).filter fun s => s != "" && s != "."

theorem partsOf_append (ss ss' : List (List Char)) : partsOf (ss ++ ss') = partsOf ss ++ partsOf ss' := by
  simp [partsOf]

theorem parts_eq (path : String) : parts path = partsOf (segmentsFrom path.toList) := rfl

theorem parts_empty : parts "" = [] := by rfl

theorem parts_append_slash (cs ds : List Char) :
    partsOf (segmentsFrom (cs ++ '/' :: ds)) = partsOf (segmentsFrom cs) ++ partsOf (segmentsFrom ds) := by
  rw [segmentsFrom_append_slash, partsOf_append]

/-- **A path below a directory has the parts of both.** -/
theorem parts_join (h : isAbsolute path = false) : parts (join directory path) = parts directory ++ parts path := by
  unfold join
  by_cases hempty : directory = ""
  · subst hempty
    rw [if_pos (by simp), parts_empty, List.nil_append]
  · rw [if_neg (by simp [h, hempty])]
    by_cases hslash : directory.toList.getLast? = some '/'
    · obtain ⟨cs, hcs⟩ := List.getLast?_eq_some_iff.1 hslash
      have hclosed : partsOf (segmentsFrom (cs ++ ['/'])) = partsOf (segmentsFrom cs) := by
        rw [parts_append_slash]
        exact List.append_nil _
      rw [if_pos (by simp [hslash]), parts_eq, parts_eq, parts_eq, String.toList_append, hcs, List.append_assoc,
        List.singleton_append, parts_append_slash, hclosed]
    · have hbetween : (directory ++ "/" ++ path).toList = directory.toList ++ '/' :: path.toList := by simp
      rw [if_neg (by simpa using hslash), parts_eq, hbetween, parts_append_slash]
      rfl

theorem isAbsolute_join (h : isAbsolute path = false) : isAbsolute (join directory path) = isAbsolute directory := by
  unfold join
  by_cases hempty : directory = ""
  · subst hempty
    rw [if_pos (by simp), h]
    rfl
  · have hchars : directory.toList ≠ [] := by simpa using hempty
    obtain ⟨c, cs, hcs⟩ := List.exists_cons_of_ne_nil hchars
    rw [if_neg (by simp [h, hempty])]
    split
    · simp [isAbsolute, hcs]
    · simp [isAbsolute, hcs]

end Parts

/-! ### Extensions -/

section Extensions

def extension : List Char := ['.', 't', 's']

theorem ofList_extension_ne (cs : List Char) {s : String} (hs : s.toList.length < 3) :
    String.ofList (cs ++ extension) ≠ s := by
  rintro rfl
  rw [String.toList_ofList, List.length_append] at hs
  exact absurd hs (Nat.not_lt_of_le (Nat.le_add_left 3 cs.length))

theorem partsOf_extension (cs : List Char) : partsOf [cs ++ extension] = [String.ofList (cs ++ extension)] := by
  refine List.filter_cons_of_pos ?_
  rw [Bool.and_eq_true, bne_iff_ne, bne_iff_ne]
  exact ⟨ofList_extension_ne cs (by decide), ofList_extension_ne cs (by decide)⟩

/-- The path leads to something with a name, which is neither a point nor two. -/
structure Named (path : String) (before : List String) (name : String) : Prop where
  parts : parts path = before ++ [name]
  up : name ≠ ".."
  plain : endsInDirectory path = false

theorem exists_named (cs : List Char) : ∃ before name, Named (String.ofList (cs ++ extension)) before name := by
  have hplain : '/' ∉ extension := by decide
  obtain ⟨before, last, hlast⟩ := exists_segmentsFrom_append cs hplain
  refine ⟨partsOf before, String.ofList (last ++ extension), ?_, ofList_extension_ne last (by decide), ?_⟩
  · rw [parts_eq, String.toList_ofList, hlast, partsOf_append, partsOf_extension]
  · have hlength : 3 ≤ (last ++ extension).length := List.length_append ▸ Nat.le_add_left 3 last.length
    have hempty : last ++ extension ≠ [] := fun h => absurd (h ▸ hlength) (by decide)
    have hpoint : last ++ extension ≠ ['.'] := fun h => absurd (h ▸ hlength) (by decide)
    unfold endsInDirectory
    rw [String.toList_ofList, hlast, List.getLast?_concat]
    simp only [beq_eq_false_iff_ne.2 hempty, beq_eq_false_iff_ne.2 hpoint, Bool.or_self]

/-- A path that begins where one is and never goes up. -/
structure Down (path : String) : Prop where
  relative : isAbsolute path = false
  parts : ".." ∉ parts path

theorem parts_extension {cs : List Char} (h : '/' ∉ cs) :
    parts (String.ofList (cs ++ extension)) = [String.ofList (cs ++ extension)] := by
  have hplain : '/' ∉ cs ++ extension := by
    rw [List.mem_append, not_or]
    exact ⟨h, by decide⟩
  rw [parts_eq, String.toList_ofList, segmentsFrom_of_not_mem hplain, partsOf_extension]

theorem down_extension {cs : List Char} (h : '/' ∉ cs) : Down (String.ofList (cs ++ extension)) where
  relative := by
    cases cs with
    | nil => decide
    | cons c cs =>
      have hc : c ≠ '/' := (List.ne_of_not_mem_cons h).symm
      simp [isAbsolute, hc]
  parts := by
    rw [parts_extension h, List.mem_singleton]
    exact (ofList_extension_ne cs (by decide)).symm

end Extensions

end Typeforge.Path
