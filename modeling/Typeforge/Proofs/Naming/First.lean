import Typeforge.Proofs.Naming.Table

/-!
# Who gets a word

A table that is made name by name (`Made`) gives a word that ends in no digit to the first reference that
proposes it, and to no other: a later one that proposes it gets it with a number, and a number is never given
without a digit at the end (`Made.nameOf?_eq_some_iff`).

`assignAll` asks for the names of several references in one style, which is one way to make a table.
-/

namespace Typeforge.Naming

/-- The name that a reference gets in the style, unless another reference has it. -/
def Style.proposal (style : Style) (reference : String) : String :=
  style.render (Schema.Pointer.baseName reference)

namespace Table

/-- The table is made name by name, each in the style that its reference asks for. -/
inductive Made (styleOf : String → Style) : Table → Prop
  | nil : Made styleOf []
  | next {t : Table} {r : String} (h : Made styleOf t) (hr : t.nameOf? r = none) :
    Made styleOf (t ++ [(r, t.nextName r (styleOf r))])

section Made

variable {styleOf : String → Style} {t : Table} {r word : String}

theorem Made.distinct (h : Made styleOf t) : t.Distinct := by
  induction h with
  | nil => exact .nil
  | next _ hr ih => exact ih.append_next hr

theorem nextName_eq_iff {style : Style} (hword : ¬ EndsInDigit word) :
    t.nextName r style = word ↔ style.proposal r = word ∧ word ∉ t.taken := fresh_eq_iff hword

/-- **The first reference that proposes a word has it**, and no other. -/
theorem Made.mem_iff (h : Made styleOf t) (hword : ¬ EndsInDigit word) :
    (r, word) ∈ t ↔ (Keyed.keys t).find? (fun r => (styleOf r).proposal r = word) = some r := by
  induction h generalizing r with
  | nil => simp [Keyed.keys]
  | @next t last _ hlast ih =>
    have hkeys : Keyed.keys (t ++ [(last, t.nextName last (styleOf last))]) = Keyed.keys t ++ [last] :=
      List.map_append
    rw [hkeys, List.find?_append, List.mem_append, List.mem_singleton, ih]
    cases hfirst : (Keyed.keys t).find? fun r => (styleOf r).proposal r = word with
    | some first =>
      -- the word is taken, so the last name is another one
      have htaken : word ∈ t.taken := mem_taken (ih.2 hfirst)
      have hlast : t.nextName last (styleOf last) ≠ word := fun heq => nextName_not_mem (heq ▸ htaken)
      simp [hlast.symm]
    | none =>
      have hfree : word ∉ t.taken := by
        intro htaken
        obtain ⟨⟨r', _⟩, hr', rfl⟩ := List.mem_map.1 htaken
        rw [ih.1 hr'] at hfirst
        cases hfirst
      by_cases hp : (styleOf last).proposal last = word
      · have := (nextName_eq_iff hword).2 ⟨hp, hfree⟩
        simp [hp, this, eq_comm]
      · have : word ≠ t.nextName last (styleOf last) := fun heq => hp ((nextName_eq_iff hword).1 heq.symm).1
        simp [hp, this]

theorem Made.nameOf?_eq_some_iff (h : Made styleOf t) (hword : ¬ EndsInDigit word) : t.nameOf? r = some word ↔
    (Keyed.keys t).find? (fun r => (styleOf r).proposal r = word) = some r :=
  ⟨fun hr => (h.mem_iff hword).1 (Keyed.mem_of_get? hr),
    fun hr => Keyed.get?_of_mem h.distinct.references ((h.mem_iff hword).2 hr)⟩

/-- A word is given out just if some reference with a name proposes it. -/
theorem Made.mem_taken_iff (h : Made styleOf t) (hword : ¬ EndsInDigit word) :
    word ∈ t.taken ↔ ∃ r ∈ Keyed.keys t, (styleOf r).proposal r = word := by
  constructor
  · intro htaken
    obtain ⟨⟨r, _⟩, hr, rfl⟩ := List.mem_map.1 htaken
    have hfirst := (h.mem_iff hword).1 hr
    exact ⟨r, List.mem_of_find?_eq_some hfirst, by simpa using List.find?_some hfirst⟩
  · rintro ⟨r, hr, hp⟩
    obtain ⟨first, hfirst⟩ :=
      Option.isSome_iff_exists.1 (List.find?_isSome (p := fun r => (styleOf r).proposal r = word).2 ⟨r, hr, by simpa⟩)
    exact mem_taken ((h.mem_iff hword).2 hfirst)

end Made

/-! ### Several references in one style -/

section AssignAll

variable {style : Style} {t : Table} {r name : String} {rs rs' : List String}

/-- The table after the names of several references were asked for. -/
def assignAll (t : Table) (rs : List String) (style : Style) : Table :=
  rs.foldl (fun t r => (t.assign r style).2) t

theorem assignAll_append : t.assignAll (rs ++ rs') style = (t.assignAll rs style).assignAll rs' style :=
  List.foldl_append

theorem made_assign (h : Made (fun _ => style) t) : Made (fun _ => style) (t.assign r style).2 := by
  cases hr : t.nameOf? r with
  | some name => rwa [assign_named hr]
  | none => rw [assign_unnamed hr]; exact h.next hr

theorem made_assignAll (h : Made (fun _ => style) t) : Made (fun _ => style) (t.assignAll rs style) := by
  induction rs generalizing t with
  | nil => exact h
  | cons r rs ih => exact ih (made_assign h)

theorem nameOf?_assign_self : (t.assign r style).2.nameOf? r = some (t.assign r style).1.name := by
  cases hr : t.nameOf? r with
  | some name => rwa [assign_named hr]
  | none =>
    rw [assign_unnamed hr, nameOf?_append, hr]
    simp [nameOf?, Keyed.get?]

theorem nameOf?_assign (h : t.nameOf? r = some name) {r' : String} : (t.assign r' style).2.nameOf? r = some name := by
  cases hr : t.nameOf? r' with
  | some name' => rwa [assign_named hr]
  | none => rw [assign_unnamed hr]; exact Keyed.get?_append_of_some h

theorem nameOf?_assignAll (h : t.nameOf? r = some name) : (t.assignAll rs style).nameOf? r = some name := by
  induction rs generalizing t with
  | nil => exact h
  | cons r' rs ih => exact ih (nameOf?_assign h)

/-- The references with names stand in the order in which their names were asked for first. -/
theorem find?_keys_assignAll (p : String → Bool) :
    (Keyed.keys (t.assignAll rs style)).find? p = (Keyed.keys t ++ rs).find? p := by
  induction rs generalizing t with
  | nil => simp [assignAll]
  | cons r rs ih =>
    show (Keyed.keys ((t.assign r style).2.assignAll rs style)).find? p = _
    rw [ih]
    cases hr : t.nameOf? r with
    | none => simp [assign_unnamed hr, Keyed.keys]
    | some name =>
      have hmem : r ∈ Keyed.keys t := by
        by_contra hnot
        rw [nameOf?_eq_none_iff.2 hnot] at hr
        cases hr
      rw [assign_named hr, List.find?_append, List.find?_append, List.find?_cons]
      -- were `r` found among the new references, it would be found before them
      cases hfirst : (Keyed.keys t).find? p with
      | some first => rfl
      | none => simp [List.find?_eq_none.1 hfirst r hmem]

end AssignAll

end Table

end Typeforge.Naming
