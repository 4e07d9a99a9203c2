import Typeforge.Naming.Table
import Typeforge.Proofs.Keyed
import Mathlib.Data.List.Perm.Subperm

/-!
# What a name table gives out

A table gives each reference one name and no name to two references.

* `fresh_not_mem`: the search for a free number succeeds within as many tries as there are names in use;
* `assign_named`, `assign_unnamed`: the two things that asking for a name can do;
* `Distinct`: no reference and no name occurs twice, which `assign` preserves.

A name with a number ends in a digit, so a word that does not can only be given as it is (`fresh_eq_iff`).
-/

namespace Typeforge.Naming.Table

/-! ### Numbered names -/

section Numbers

variable {base word : String}

theorem numbered_injective {i j : Nat} (h : numbered base i = numbered base j) : i = j := by
  have digits : Nat.toDigits 10 i = Nat.toDigits 10 j := by
    simpa [numbered] using congrArg String.toList h
  calc i = Nat.ofDigitChars 10 (Nat.toDigits 10 i) 0 := Nat.ofDigitChars_ten_toDigits.symm
    _ = j := by rw [digits, Nat.ofDigitChars_ten_toDigits]

def EndsInDigit (word : String) : Prop := ∃ c, word.toList.getLast? = some c ∧ c.isDigit = true

instance : Decidable (EndsInDigit word) :=
  decidable_of_iff (word.toList.getLast?.any Char.isDigit) (by simp [EndsInDigit, Option.any_eq_true])

theorem endsInDigit_numbered (k : Nat) : EndsInDigit (numbered base k) := by
  obtain ⟨c, hc⟩ : ∃ c, (Nat.toDigits 10 k).getLast? = some c :=
    ⟨_, List.getLast?_eq_some_getLast Nat.toDigits_ne_nil⟩
  refine ⟨c, ?_, ?_⟩
  · simp [numbered, List.getLast?_append, hc]
  · exact Nat.isDigit_of_mem_toDigits (by decide) (by decide) (List.mem_of_getLast? hc)

/-! ### The search for a free number -/

variable {used : List String}

theorem firstFree_spec (tries k : Nat) : numbered base (firstFree used base tries k) ∉ used ∨
    ∀ i ≤ tries, numbered base (k + i) ∈ used := by
  induction tries generalizing k with
  | zero =>
    by_cases h : numbered base k ∈ used
    · exact .inr fun i hi => by simpa [Nat.le_zero.1 hi] using h
    · exact .inl h
  | succ tries ih =>
    simp only [firstFree]
    split
    · rename_i hk
      refine (ih (k + 1)).imp id fun h i hi => ?_
      cases i with
      | zero => simpa using hk
      | succ i => simpa [Nat.add_assoc, Nat.add_comm 1] using h i (by omega)
    · rename_i hk
      exact .inl (by simpa using hk)

/-- **A free name is found.** Were it in use, there would be one more numbered name than names in use. -/
theorem fresh_not_mem (used : List String) (base : String) : fresh used base ∉ used := by
  unfold fresh
  split
  · refine (firstFree_spec used.length 2).resolve_right fun h => ?_
    have distinct : ((List.range (used.length + 1)).map fun i => numbered base (2 + i)).Nodup :=
      List.nodup_range.map fun i j hij => Nat.add_left_cancel (numbered_injective hij)
    have inside : ((List.range (used.length + 1)).map fun i => numbered base (2 + i)) ⊆ used := by
      intro name hname
      obtain ⟨i, hi, rfl⟩ := List.mem_map.1 hname
      exact h i (Nat.le_of_lt_succ (List.mem_range.1 hi))
    have := (List.subperm_of_subset distinct inside).length_le
    simp only [List.length_map, List.length_range] at this
    omega
  · rename_i h
    simpa using h

/-- A word that does not end in a digit is given only where it is the base itself. -/
theorem fresh_eq_iff (hword : ¬ EndsInDigit word) : fresh used base = word ↔ base = word ∧ word ∉ used := by
  constructor
  · intro h
    have hfree := fresh_not_mem used base
    rw [h] at hfree
    refine ⟨?_, hfree⟩
    unfold fresh at h
    split at h
    · exact absurd (h ▸ endsInDigit_numbered _) hword
    · exact h
  · rintro ⟨rfl, h⟩
    simp [fresh, h]

end Numbers

/-! ### Asking for a name -/

section Assign

variable {t : Table} {reference name : String} {style : Style}

/-- The name that a reference without a name would get. -/
def nextName (t : Table) (reference : String) (style : Style) : String :=
  fresh t.taken (style.render (Schema.Pointer.baseName reference))

theorem assign_named (h : t.nameOf? reference = some name) : t.assign reference style = (⟨name, false⟩, t) := by
  simp [assign, h]

theorem assign_unnamed (h : t.nameOf? reference = none) :
    t.assign reference style
      = (⟨t.nextName reference style, true⟩, t ++ [(reference, t.nextName reference style)]) := by
  simp [assign, nextName, h]

theorem nextName_not_mem : t.nextName reference style ∉ t.taken := fresh_not_mem _ _

theorem nameOf?_append {t' : Table} : nameOf? (t ++ t') reference = (t.nameOf? reference <|> nameOf? t' reference) :=
  Keyed.get?_append

theorem nameOf?_eq_none_iff : t.nameOf? reference = none ↔ reference ∉ Keyed.keys t := Keyed.get?_eq_none_iff

theorem mem_taken (h : (reference, name) ∈ t) : name ∈ t.taken := List.mem_map.2 ⟨_, h, rfl⟩

/-- No reference and no name occurs twice. -/
structure Distinct (t : Table) : Prop where
  references : (Keyed.keys t).Nodup
  names : t.taken.Nodup

theorem Distinct.nil : Distinct [] := ⟨List.nodup_nil, List.nodup_nil⟩

theorem Distinct.append_next (ht : t.Distinct) (h : t.nameOf? reference = none) :
    Distinct (t ++ [(reference, t.nextName reference style)]) := by
  constructor
  · rw [Keyed.keys, List.map_append]
    refine List.nodup_append.2 ⟨ht.references, by simp, fun a ha b hb => ?_⟩
    rintro rfl
    rw [List.map_singleton, List.mem_singleton] at hb
    subst hb
    exact nameOf?_eq_none_iff.1 h ha
  · rw [taken, List.map_append]
    refine List.nodup_append.2 ⟨ht.names, by simp, fun a ha b hb => ?_⟩
    rintro rfl
    rw [List.map_singleton, List.mem_singleton] at hb
    subst hb
    exact nextName_not_mem ha

theorem Distinct.nameOf?_eq (ht : t.Distinct) (h : (reference, name) ∈ t) : t.nameOf? reference = some name :=
  Keyed.get?_of_mem ht.references h

theorem Distinct.reference_eq (ht : t.Distinct) {r r' : String} (h : (r, name) ∈ t) (h' : (r', name) ∈ t) :
    r = r' :=
  (Prod.mk.inj (List.inj_on_of_nodup_map ht.names h h' rfl)).1

end Assign

end Typeforge.Naming.Table
