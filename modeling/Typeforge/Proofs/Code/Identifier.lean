import Typeforge.Code.Identifier
import Mathlib.Data.List.Basic

/-!
# Legal names

A name is legal when it has the form of a name and is not reserved. Whatever the text, `legalize` makes a legal
name of it (`legal_legalize`): its characters are replaced by such as a name may hold, and the underscore that goes
before a digit or a reserved word begins a name and no reserved word.
-/

namespace Typeforge.Code.Identifier

/-- The text has the form of a name and is not reserved. -/
structure Legal (s : String) : Prop where
  name : isName s = true
  free : isReserved s = false

instance (s : String) : Decidable (Legal s) :=
  decidable_of_iff (isName s = true ∧ isReserved s = false) ⟨fun h => ⟨h.1, h.2⟩, fun h => ⟨h.1, h.2⟩⟩

section Characters

variable {c : Char} {s : String}

theorem isPart_of_isStart (h : isStart c = true) : isPart c = true := by
  simp only [isStart, isPart, Char.isAlphanum, Bool.or_eq_true] at h ⊢
  rcases h with (h | h) | h
  · exact .inl (.inl (.inl h))
  · exact .inl (.inr h)
  · exact .inr h

theorem isPart_of_isDigit (h : c.isDigit = true) : isPart c = true := by
  simp [isPart, Char.isAlphanum, h]

theorem isDigit_of_isStart (h : isStart c = true) : c.isDigit = false := by
  rw [Bool.eq_false_iff]
  intro hd
  have hdigit : c.val ≤ '9'.val := of_decide_eq_true (Bool.and_eq_true_iff.1 hd).2
  have hupper (hu : c.isUpper = true) : 'A'.val ≤ c.val := (of_decide_eq_true hu).1
  have hlower (hl : c.isLower = true) : 'a'.val ≤ c.val := of_decide_eq_true (Bool.and_eq_true_iff.1 hl).1
  have hstart : (c.isUpper || c.isLower || c == '_' || c == '$') = true := h
  simp only [Bool.or_eq_true, beq_iff_eq] at hstart
  rcases hstart with ((hu | hl) | rfl) | rfl
  · exact absurd (UInt32.le_trans (hupper hu) hdigit) (by decide)
  · exact absurd (UInt32.le_trans (hlower hl) hdigit) (by decide)
  · exact absurd hd (by decide)
  · exact absurd hd (by decide)

theorem not_isStart_of_isDigit (h : c.isDigit = true) : isStart c = false := by
  rw [Bool.eq_false_iff]
  intro hstart
  rw [isDigit_of_isStart hstart] at h
  cases h

theorem isStart_of_isPart (h : isPart c = true) (hd : c.isDigit = false) : isStart c = true := by
  simpa [isStart, isPart, Char.isAlphanum, hd] using h

theorem isPart_legalChar : isPart (legalChar c) = true := by
  unfold legalChar
  split
  · assumption
  · decide

theorem isName_iff : isName s = true ↔ ∃ c cs, s.toList = c :: cs ∧ isStart c = true ∧ ∀ d ∈ cs, isPart d = true := by
  unfold isName
  cases s.toList with
  | nil => simp
  | cons c cs => simp

theorem isPart_of_mem (h : isName s = true) (hc : c ∈ s.toList) : isPart c = true := by
  obtain ⟨d, ds, hs, hd, hds⟩ := isName_iff.1 h
  rw [hs, List.mem_cons] at hc
  rcases hc with rfl | hc
  · exact isPart_of_isStart hd
  · exact hds c hc

end Characters

section Underscore

variable {s : String}

theorem isName_underscored (h : ∀ c ∈ s.toList, isPart c = true) : isName (underscored s) = true :=
  isName_iff.2 ⟨'_', s.toList, by simp [underscored], by decide, h⟩

theorem isReserved_underscored : isReserved (underscored s) = false := by
  have words : ∀ w ∈ reservedWords, w.toList.head? ≠ some '_' := by decide
  by_contra h
  have hmem : underscored s ∈ reservedWords := by simpa [isReserved] using h
  exact words _ hmem (by simp [underscored])

theorem legal_of_isName (h : isName s = true) : Legal (if isReserved s then underscored s else s) := by
  split
  · exact ⟨isName_underscored fun c hc => isPart_of_mem h hc, isReserved_underscored⟩
  · rename_i hfree
    exact ⟨h, by simpa using hfree⟩

end Underscore

/-- **The text that is made of any text is a legal name.** -/
theorem legal_legalize (s : String) : Legal (legalize s) := by
  have parts : ∀ c ∈ s.toList.map legalChar, isPart c = true := by
    simp only [List.forall_mem_map]
    exact fun c _ => isPart_legalChar
  unfold legalize
  cases hs : s.toList.map legalChar with
  | nil => decide
  | cons c cs =>
    rw [hs] at parts
    refine legal_of_isName ?_
    split
    · exact isName_underscored (by simpa using parts)
    · rename_i hdigit
      have hc := isStart_of_isPart (parts c List.mem_cons_self) (by simpa using hdigit)
      exact isName_iff.2 ⟨c, cs, by simp, hc, fun d hmem => parts d (List.mem_cons_of_mem _ hmem)⟩

end Typeforge.Code.Identifier
