import Typeforge.Output.File
import Typeforge.Proofs.Firsts

/-!
# The imports of a file

Imports are the same that bind the same from the same module, whether as values or as types alone. Of those a file
keeps the first that is asked for, as it is asked for (`imports_foldl`). So an import of values is there just if
no request for types alone came before it.
-/

namespace Typeforge

open Code

/-- The imports bind the same from the same module. -/
def Code.Import.same (i j : Import) : Bool := decide (i.specifier = j.specifier ∧ i.binding = j.binding)

theorem Code.Import.same_iff {i j : Import} : i.same j = true ↔ i.specifier = j.specifier ∧ i.binding = j.binding :=
  decide_eq_true_iff

theorem Code.Import.same_refl (i : Import) : i.same i = true := Import.same_iff.2 ⟨rfl, rfl⟩

theorem Code.Import.same_trans {i j k : Import} (h : i.same j = true) (h' : j.same k = true) : i.same k = true := by
  rw [Import.same_iff] at h h' ⊢
  exact ⟨h.1.trans h'.1, h.2.trans h'.2⟩

theorem Code.Import.eq_of_same {i j : Import} (h : i.same j = true) (htypeOnly : i.typeOnly = j.typeOnly) : i = j := by
  obtain ⟨hspecifier, hbinding⟩ := Import.same_iff.1 h
  cases i
  cases j
  cases hspecifier
  cases hbinding
  cases htypeOnly
  rfl

namespace File

variable {i : Import} {is : List Import}

theorem imports_addImport (f : File) (i : Import) :
    (f.addImport i).imports = f.imports ++ if f.imports.any (·.same i) then [] else [i] := by
  show (if f.imports.any (·.same i) then f else { f with imports := f.imports ++ [i] }).imports = _
  by_cases h : f.imports.any (·.same i) = true
  · rw [if_pos h, if_pos h, List.append_nil]
  · rw [if_neg h, if_neg h]

/-- **A file keeps the first of the imports that are the same**, in order. -/
theorem imports_foldl (id : String) (is : List Import) :
    (is.foldl addImport { id }).imports = firsts Import.same is := by
  induction is using List.reverseRecOn with
  | nil => rfl
  | append_singleton is i ih =>
    rw [List.foldl_concat, imports_addImport, ih, firsts_concat,
      any_firsts Import.same_refl fun _ _ _ => Import.same_trans]

/-- An import of values is kept just if the first of those that are the same is one of values. -/
theorem mem_firsts_of_values (hvalue : i.typeOnly = false) :
    i ∈ firsts Import.same is ↔ ∃ first, is.find? (·.same i) = some first ∧ first.typeOnly = false := by
  rw [mem_firsts_iff Import.same_refl]
  constructor
  · exact fun h => ⟨i, h, hvalue⟩
  · rintro ⟨first, hfirst, hvalue'⟩
    have hsame := List.find?_some hfirst
    rwa [Import.eq_of_same hsame (hvalue'.trans hvalue.symm)] at hfirst

/-- **What a file keeps of the imports that it is asked for.** No two are the same, each one asked for is there, they
stand in the order in which they were asked for first, and an import of values is there as such just if it was one of
values that was asked for first. -/
theorem addImport_keeps (id : String) (is : List Import) :
    (is.foldl addImport { id }).imports = firsts Import.same is ∧
    (is.foldl addImport { id }).imports.Pairwise
      (fun i j => ¬ (i.specifier = j.specifier ∧ i.binding = j.binding)) ∧
    (is.foldl addImport { id }).imports.Sublist is ∧
    (∀ i ∈ is, ∃ j ∈ (is.foldl addImport { id }).imports, j.specifier = i.specifier ∧ j.binding = i.binding) ∧
    (∀ i ∈ is, i.typeOnly = false → (i ∈ (is.foldl addImport { id }).imports ↔
      ∃ first, is.find? (·.same i) = some first ∧ first.typeOnly = false)) := by
  rw [imports_foldl]
  refine ⟨rfl, ?_, firsts_sublist is, fun i hi => ?_, fun i _ => mem_firsts_of_values⟩
  · refine (pairwise_firsts is).imp fun hij h => ?_
    rw [Import.same_iff.2 h] at hij
    cases hij
  · obtain ⟨j, hj, hji⟩ := exists_same_firsts Import.same_refl (fun _ _ _ => Import.same_trans) hi
    exact ⟨j, hj, Import.same_iff.1 hji⟩

/-- A library as values, one of its types, and the library again, as types and as values. -/
def valuesFirst : List Import := [
  ⟨.everything "v", "valibot", false⟩,
  ⟨.named [{ name := "GenericSchema" }], "valibot", true⟩,
  ⟨.everything "v", "valibot", true⟩,
  ⟨.everything "v", "valibot", false⟩]

theorem valuesFirst_kept :
    (⟨.everything "v", "valibot", false⟩ : Import) ∈ valuesFirst ∧
    (⟨.everything "v", "valibot", false⟩ : Import) ∈ (valuesFirst.foldl addImport { id := "valibot" }).imports ∧
    (∃ j ∈ (valuesFirst.foldl addImport { id := "valibot" }).imports,
      j.specifier = "valibot" ∧ j.binding = .named [{ name := "GenericSchema" }]) ∧
    (valuesFirst.foldl addImport { id := "valibot" }).imports.length = 2 := by
  obtain ⟨-, -, -, hpresent, hvalues⟩ := addImport_keeps "valibot" valuesFirst
  have hmem : (⟨.everything "v", "valibot", false⟩ : Import) ∈ valuesFirst := List.mem_cons_self
  exact ⟨hmem, (hvalues _ hmem rfl).2 ⟨_, rfl, rfl⟩,
    hpresent ⟨.named [{ name := "GenericSchema" }], "valibot", true⟩ (by decide), by decide⟩

/-- A library as types, and then as values. -/
def typesFirst : List Import := [⟨.everything "v", "valibot", true⟩, ⟨.everything "v", "valibot", false⟩]

/-- The library is asked for as values, and is there as types alone. -/
theorem typesFirst_lose_values :
    (typesFirst.foldl addImport { id := "valibot" }).text = "import type * as v from \"valibot\";\n\n" ∧
    ¬ ∀ i ∈ typesFirst, i.typeOnly = false → ∃ j ∈ (typesFirst.foldl addImport { id := "valibot" }).imports,
      j.specifier = i.specifier ∧ j.binding = i.binding ∧ j.typeOnly = false := by
  refine ⟨by decide +kernel, fun h => ?_⟩
  obtain ⟨j, hj, -, -, hvalue⟩ := h ⟨.everything "v", "valibot", false⟩ (by decide) rfl
  have honly : (typesFirst.foldl addImport { id := "valibot" }).imports = [⟨.everything "v", "valibot", true⟩] := rfl
  rw [honly, List.mem_singleton] at hj
  rw [hj] at hvalue
  cases hvalue

end File

end Typeforge
