import Typeforge.Naming.Rule
import Typeforge.Proofs.Code.Identifier

/-!
# Names that a module may bind

The code of a module is strict: it may not bind a word that the language reserves, nor `eval` and `arguments`, which it
may only use. The list of words that `legalize` goes by holds all words of the first kind and `async`, which may be
bound, but not the two of the second kind. A text that is none of these two is never made one of them
(`legalize_eq_iff`), so a rule gives a name that cannot be bound just if it comes to one of the two by itself
(`render_binds`).
-/

namespace Typeforge.Code.Identifier

/-! ### The rules -/

/-- The words that the language reserves in the code of a module: those that are reserved everywhere, and those that
are in strict code. -/
def languageWords : List String := [
  "await", "break", "case", "catch", "class", "const", "continue", "debugger", "default", "delete", "do", "else",
  "enum", "export", "extends", "false", "finally", "for", "function", "if", "import", "in", "instanceof", "new",
  "null", "return", "super", "switch", "this", "throw", "true", "try", "typeof", "var", "void", "while", "with",
  "yield",
  "implements", "interface", "let", "package", "private", "protected", "public", "static"]

/-- The names that strict code may use but not bind. -/
def restrictedWords : List String := ["eval", "arguments"]

structure Bindable (s : String) : Prop where
  name : isName s = true
  unreserved : s ∉ languageWords
  unrestricted : s ∉ restrictedWords

instance (s : String) : Decidable (Bindable s) :=
  decidable_of_iff (isName s = true ∧ s ∉ languageWords ∧ s ∉ restrictedWords)
    ⟨fun h => ⟨h.1, h.2.1, h.2.2⟩, fun h => ⟨h.name, h.unreserved, h.unrestricted⟩⟩

/-! ### What is made of a name -/

section Legalize

variable {s word : String}

theorem languageWords_subset : languageWords ⊆ reservedWords := by decide

theorem Legal.unreserved (h : Legal s) : s ∉ languageWords := by
  intro hword
  have hreserved : isReserved s = true := List.contains_iff_mem.2 (languageWords_subset hword)
  rw [h.free] at hreserved
  cases hreserved

theorem map_legalChar_of_isName (h : isName s = true) : s.toList.map legalChar = s.toList :=
  (List.map_congr_left fun _ hc => if_pos (isPart_of_mem h hc)).trans (List.map_id _)

/-- A name gets an underscore if it is reserved, and stays as it is otherwise. -/
theorem legalize_of_isName (h : isName s = true) : legalize s = if isReserved s then underscored s else s := by
  obtain ⟨c, cs, hs, hc, -⟩ := isName_iff.1 h
  have hmap : s.toList.map legalChar = c :: cs := by rw [map_legalChar_of_isName h, hs]
  have hself : String.ofList (c :: cs) = s := by rw [← hs, String.ofList_toList]
  have hdigit : c.isDigit = false := isDigit_of_isStart hc
  unfold legalize
  rw [hmap]
  simp [hself, hdigit]

theorem legalize_of_legal (h : Legal s) : legalize s = s := by
  rw [legalize_of_isName h.name, h.free]
  rfl

/-- **To make a name legal twice is to do it once.** -/
theorem legalize_legalize (s : String) : legalize (legalize s) = legalize s := legalize_of_legal (legal_legalize s)

theorem legalChar_of_ne {c : Char} (h : legalChar c ≠ '_') : legalChar c = c := by
  unfold legalChar at h ⊢
  split
  · rfl
  · rename_i hpart
    rw [if_neg hpart] at h
    exact absurd rfl h

/-- **A legal word without an underscore is made of itself alone.** Whatever is replaced or put in front leaves an
underscore behind. -/
theorem legalize_eq_iff (hword : Legal word) (hplain : '_' ∉ word.toList) : legalize s = word ↔ s = word := by
  refine ⟨fun h => ?_, fun h => h ▸ legalize_of_legal (h ▸ hword)⟩
  have hunderscored (t : String) : underscored t ≠ word := by
    rintro rfl
    exact hplain (by simp [underscored])
  unfold legalize at h
  cases hs : s.toList.map legalChar with
  | nil =>
    rw [hs] at h
    exact absurd (h ▸ hplain) (by decide)
  | cons c cs =>
    rw [hs] at h
    simp only at h
    have hchars : String.ofList (c :: cs) = word := by
      split at h
      · split at h
        · exact absurd h (hunderscored _)
        · exact absurd h (hunderscored _)
      · split at h
        · exact absurd h (hunderscored _)
        · exact h
    have hmap : s.toList.map legalChar = word.toList := by rw [hs, ← hchars, String.toList_ofList]
    have hkept : s.toList.map legalChar = s.toList := by
      refine (List.map_congr_left fun d hd => legalChar_of_ne fun hd' => ?_).trans (List.map_id _)
      exact hplain (hmap ▸ hd' ▸ List.mem_map_of_mem hd)
    exact String.toList_inj.1 (hkept.symm.trans hmap)

theorem legalize_mem_restricted : legalize s ∈ restrictedWords ↔ s ∈ restrictedWords := by
  have heval : legalize s = "eval" ↔ s = "eval" := legalize_eq_iff (by decide) (by decide)
  have harguments : legalize s = "arguments" ↔ s = "arguments" := legalize_eq_iff (by decide) (by decide)
  simp only [restrictedWords, List.mem_cons, List.not_mem_nil, or_false, heval, harguments]

theorem bindable_legalize : Bindable (legalize s) ↔ s ∉ restrictedWords := by
  have hlegal : Legal (legalize s) := legal_legalize s
  rw [← not_congr legalize_mem_restricted]
  exact ⟨fun h => h.unrestricted, fun h => ⟨hlegal.name, hlegal.unreserved, h⟩⟩

end Legalize

end Typeforge.Code.Identifier

namespace Typeforge.Naming

open Code.Identifier

/-- **What a rule gives may be bound** unless the text that is put into its case is one of the two restricted words. It
has the form of a name in any case and is not reserved; and any name `s` stays as it is unless it is on the list. -/
theorem render_binds (rule : Rule) (base : String) (case : Case) (s : String) :
    isName (rule.render base case) = true ∧ rule.render base case ∉ languageWords ∧
    (Bindable (rule.render base case) ↔ case.apply (rule.raw base case) ∉ restrictedWords) ∧
    legalize (legalize s) = legalize s ∧
    (isName s = true → legalize s = if isReserved s then underscored s else s) := by
  have hlegal : Legal (rule.render base case) := legal_legalize _
  exact ⟨hlegal.name, hlegal.unreserved, bindable_legalize, legalize_legalize s, legalize_of_isName⟩

/-- Where a rule comes to a word of the list, which it may not bind, the name has an underscore. -/
theorem delete_binds :
    Bindable (Rule.render (.template Rule.placeholder) "Delete" .camel) ∧
    legalize (legalize "delete") = legalize "delete" ∧ legalize "delete" = "_delete" := by
  obtain ⟨-, -, hbind, htwice, hname⟩ := render_binds (.template Rule.placeholder) "Delete" .camel "delete"
  exact ⟨hbind.2 (by decide +kernel), htwice, (hname (by decide)).trans (by decide)⟩

/-- A component of such a name is declared by it, where the template adds nothing to it. -/
theorem eval_not_bindable :
    Rule.render (.template Rule.placeholder) "eval" .camel = "eval" ∧ ¬ Bindable "eval" ∧
    Rule.render (.template Rule.placeholder) "Arguments" .camel = "arguments" ∧ ¬ Bindable "arguments" := by
  decide +kernel

end Typeforge.Naming
