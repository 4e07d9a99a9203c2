import Typeforge.Proofs.Types.Captures
import Typeforge.Proofs.Validator.Captures
import Typeforge.Proofs.Validator.Dangling

/-!
# Names that hide what a file is written with

The files of the two plugins are written with words from outside: the name of the library and `BigInt` in the
file of validators, `Record` and the keyword types in the file of types. Names are kept apart from one another
and from the reserved words, and from nothing else, so a component or a template that leads to such a word
hides it. When that happens can be read off the document and the options.
-/

namespace Typeforge

open Schema Naming

/-- **When a file declares a word that it is written with.** In the file of validators this is when the word
is proposed for a reference that is asked for; in the file of types, when the first reference that is asked
for and proposes the word is the pointer to a component. -/
theorem declares_outside_iff (d : Document) :
    (∀ options id file, Validator.fillFile options d { id } = .ok file →
      file.imports = [Validator.libraryImport] ∧ ∀ word ∈ Validator.outside, (word ∈ file.declared ↔
        ∃ r ∈ Validator.asked options d, (Validator.styleOf options d r).proposal r = word)) ∧
    ∀ options id file, Types.fillFile options d { id } = .ok file → ∀ word ∈ Types.outside, (word ∈ file.declared ↔
      ∃ p ∈ Types.components d,
        (Types.asked d).find? (fun r => options.definitions.toStyle.proposal r = word) = some p.1) := by
  have validatorWords : ∀ word ∈ Validator.outside, ¬ Table.EndsInDigit word := by decide
  have typeWords : ∀ word ∈ Types.outside, ¬ Table.EndsInDigit word := by decide
  constructor
  · intro options id file h
    obtain ⟨-, -, himports, -⟩ := Validator.fillFile_ok h
    exact ⟨himports, fun word hword => Validator.declared_iff h (validatorWords word hword)⟩
  · exact fun options id file h word hword => Types.declared_iff h (typeWords word hword)

/-- A schema without a name, and one with the name of the generic type of records. -/
def clashing : Document where
  components := { schemas := [("", { kind := some .string }), ("Record", { kind := some .object })] }

theorem exists_clashing_validators : ∃ file, Validator.fillFile {} clashing { id := "valibot" } = .ok file :=
  Validator.exists_fillFile (by decide +kernel)

theorem exists_clashing_types : ∃ file, Types.fillFile {} clashing { id := "types" } = .ok file :=
  Types.exists_fillFile (by decide +kernel)

/-- Both files of these schemas exist, and each word is declared just if the schemas lead to it. -/
theorem clashing_declares_iff :
    (∃ file, Validator.fillFile {} clashing { id := "valibot" } = .ok file ∧ ("v" ∈ file.declared ↔
      ∃ r ∈ Validator.asked {} clashing, (Validator.styleOf {} clashing r).proposal r = "v")) ∧
    ∃ file, Types.fillFile {} clashing { id := "types" } = .ok file ∧ ("Record" ∈ file.declared ↔
      ∃ p ∈ Types.components clashing, (Types.asked clashing).find?
        (fun r => ({} : Types.Options).definitions.toStyle.proposal r = "Record") = some p.1) := by
  obtain ⟨validators, hvalidators⟩ := exists_clashing_validators
  obtain ⟨types, htypes⟩ := exists_clashing_types
  obtain ⟨forValidators, forTypes⟩ := declares_outside_iff clashing
  exact ⟨⟨validators, hvalidators, (forValidators _ _ _ hvalidators).2 "v" (by decide)⟩,
    ⟨types, htypes, forTypes _ _ _ htypes "Record" (by decide)⟩⟩

/-- The schema without a name is declared as the name of the library, and the other one as the generic type
that its own type is written with. -/
theorem clashing_hides : (∃ file, Validator.fillFile {} clashing { id := "valibot" } = .ok file ∧
      file.imports = [⟨.everything "v", "valibot", false⟩] ∧ "v" ∈ file.declared) ∧
    ∃ file, Types.fillFile {} clashing { id := "types" } = .ok file ∧ "Record" ∈ file.declared := by
  constructor
  · obtain ⟨file, h⟩ := exists_clashing_validators
    obtain ⟨-, -, himports, -⟩ := Validator.fillFile_ok h
    refine ⟨file, h, himports, (Validator.declared_iff h (by decide)).2 ⟨"#/components/schemas/", ?_, ?_⟩⟩
    · have htarget : Validator.targetOf? {} clashing "#/components/schemas/" = _ :=
        Validator.targetOf?_toComponent .schemas ""
      exact Validator.mem_asked.2 ⟨⟨"#/components/schemas/", { kind := some .string }, _⟩, htarget, .inl rfl⟩
    · rw [Validator.styleOf_resolved (n := { kind := some .string }) rfl]
      decide +kernel
  · obtain ⟨file, h⟩ := exists_clashing_types
    refine ⟨file, h, (Types.declared_iff h (by decide)).2 ⟨("#/components/schemas/Record", { kind := some .object }), ?_, ?_⟩⟩
    · exact List.mem_cons_of_mem _ List.mem_cons_self
    · rw [Types.asked_eq_of_closed (by decide +kernel)]
      decide +kernel

end Typeforge
