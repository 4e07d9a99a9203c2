import Typeforge.Proofs.Output.Declared
import Typeforge.Proofs.Validator.Answers
import Typeforge.Proofs.Validator.Order

/-!
# What the file of validators declares

All names of the file are declared, and its references are those that `asked` lists. So a word that ends in no
digit is declared just if one of them proposes it (`declared_iff`), be it the name of the library.
-/

namespace Typeforge.Validator

open Schema Naming Code

/-- The words that validators are written with: the name of the library, and the function for big integers. -/
def outside : List String := [namespaceName, "BigInt"]

theorem declared_statements (ds : List Declaration) :
    (ds.flatMap Declaration.statements).filterMap Stmt.declared? = ds.map (·.name) := by
  have statements (d : Declaration) : d.statements.filterMap Stmt.declared? = [d.name] := by
    unfold Declaration.statements
    split <;> rfl
  rw [List.filterMap_flatMap, List.map_eq_flatMap]
  exact congrArg (ds.flatMap ·) (funext statements)

/-- **What the file declares**: a word that is proposed for some reference. -/
theorem declared_iff {options : Options} {d : Document} {id word : String} {file : File}
    (h : fillFile options d { id } = .ok file) (hword : ¬ Table.EndsInDigit word) :
    word ∈ file.declared ↔ ∃ r ∈ asked options d, (styleOf options d r).proposal r = word := by
  obtain ⟨s, hends, -, -, hbody⟩ := fillFile_ok h
  obtain ⟨hsettled, -⟩ := settled_declareAll (settled_start options.definitions.toStyle) hends
  obtain ⟨hmade, hkeys⟩ := names_of_declareAll hends
  calc word ∈ file.declared ↔ word ∈ s.declared := by rw [File.declared, hbody, declared_statements, Session.declared]
    _ ↔ word ∈ s.names.taken := ⟨fun hw => hsettled.1.named hw, hsettled.mem_declared⟩
    _ ↔ ∃ r ∈ Keyed.keys s.names, (styleOf options d r).proposal r = word := hmade.mem_taken_iff hword
    _ ↔ ∃ r ∈ asked options d, (styleOf options d r).proposal r = word := by simp only [hkeys]

end Typeforge.Validator
