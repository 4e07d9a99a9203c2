import Mathlib.Data.List.TakeWhile
import Typeforge.Proofs.Code.ObjectLiteral

/-!
# Doubles are written as numerals

A numeral is a run of digits without a needless zero in front, and it may have a point with more digits behind it. A
natural number is written as one (`numeral_toDigits`), and so is every double behind its sign (`numeral_magnitude`): the
shortest decimal has digits other than zeros, and the point stands before, behind or among them.
-/

namespace Typeforge.Decimal

open Code (isDigits isDecimal head?_toDigits isDecimal_toDigits)

/-- The text of a number without its sign. -/
inductive Numeral : List Char → Prop
  | whole {digits : List Char} (hdigits : isDigits digits = true) (hdecimal : isDecimal digits = true) :
    Numeral digits
  | fraction {digits more : List Char} (hdigits : isDigits digits = true) (hdecimal : isDecimal digits = true)
    (hmore : isDigits more = true) : Numeral (digits ++ '.' :: more)

/-! ### The digits of a shortest decimal -/

section Shortest

variable {i : Interval} {tie : Tie} {x : Scaled} {exponent e : Int} {m fuel : Nat}

theorem onGrid?_digits (h : i.onGrid? tie exponent = some x) : x.digits ≠ 0 := by
  have hnearer (lower : Bool) (n : Nat) (hn : n ≠ 0) : (if lower then n else n + 1) ≠ 0 := by
    split
    · exact hn
    · exact Nat.succ_ne_zero n
  unfold Interval.onGrid? at h
  simp only at h
  split at h
  · rename_i hfloor _
    cases h
    simp only [Bool.and_eq_true, bne_iff_ne] at hfloor
    exact hnearer _ _ hfloor.2
  · rename_i hfloor _
    cases h
    simp only [Bool.and_eq_true, bne_iff_ne] at hfloor
    exact hfloor.2
  · cases h
    exact Nat.succ_ne_zero _
  · cases h

theorem search_digits (h : i.search tie exponent fuel = some x) : x.digits ≠ 0 := by
  induction fuel generalizing exponent with
  | zero => cases h
  | succ fuel ih =>
    rw [Interval.search] at h
    cases hgrid : i.onGrid? tie exponent with
    | some y =>
      rw [hgrid] at h
      cases h
      exact onGrid?_digits hgrid
    | none =>
      rw [hgrid] at h
      exact ih h

/-- Zero is the shortest decimal only for want of another one. -/
theorem shortest_digits : shortest tie m e = ⟨0, 0⟩ ∨ (shortest tie m e).digits ≠ 0 := by
  simp only [shortest]
  split
  · exact .inl rfl
  · cases hsearch : (Interval.of m e).search tie
        (pointPosition (m * (Binary64.powTwo e).1) (Binary64.powTwo e).2 - 1) 17 with
    | none => exact .inl rfl
    | some x => exact .inr (search_digits hsearch)

end Shortest

/-! ### Digits with a point -/

section Positional

variable {digits : List Char} {point : Int}

theorem isDigits_zeros_append (n : Nat) (hne : digits ≠ []) (hdigits : ∀ c ∈ digits, c.isDigit = true) :
    isDigits (zeros n ++ digits) = true := by
  rw [isDigits, Bool.and_eq_true, List.all_eq_true]
  refine ⟨by simp [hne], fun c hc => ?_⟩
  rcases List.mem_append.1 hc with hc | hc
  · rw [List.eq_of_mem_replicate hc]
    decide
  · exact hdigits c hc

theorem isDecimal_of_head? (h : digits.head? ≠ some '0') : isDecimal digits = true := by
  simp [isDecimal, h]

theorem numeral_writePositional (hne : digits ≠ []) (hdigits : ∀ c ∈ digits, c.isDigit = true)
    (hhead : digits.head? ≠ some '0') (point : Int) : Numeral (writePositional "" digits point) := by
  by_cases hbefore : point ≤ 0
  · have hwritten : writePositional "" digits point = ['0'] ++ '.' :: (zeros point.natAbs ++ digits) := by
      simp [writePositional, hbefore]
    rw [hwritten]
    exact .fraction (by decide) (by decide) (isDigits_zeros_append _ hne hdigits)
  · by_cases hbehind : digits.length ≤ point.natAbs
    · have hwritten : writePositional "" digits point = digits ++ zeros (point.natAbs - digits.length) := by
        simp [writePositional, hbefore, hbehind]
      refine .whole (isDigits_writePositional hdigits (by omega) hbehind) (isDecimal_of_head? ?_)
      rwa [hwritten, List.head?_append_of_ne_nil _ hne]
    · have hwritten : writePositional "" digits point =
          digits.take point.natAbs ++ '.' :: digits.drop point.natAbs := by
        simp [writePositional, hbefore, hbehind]
      have hlength : 0 < point.natAbs ∧ point.natAbs < digits.length := by omega
      have hkept : ∀ {part : List Char}, part ≠ [] → (∀ c ∈ part, c ∈ digits) → isDigits part = true := by
        intro part hpart hmem
        rw [isDigits, Bool.and_eq_true, List.all_eq_true]
        exact ⟨by simpa using hpart, fun c hc => hdigits c (hmem c hc)⟩
      rw [hwritten]
      refine .fraction (hkept ?_ fun c hc => List.mem_of_mem_take hc) (isDecimal_of_head? ?_)
        (hkept ?_ fun c hc => List.mem_of_mem_drop hc)
      · rw [ne_eq, List.take_eq_nil_iff, not_or]
        exact ⟨by omega, hne⟩
      · rwa [List.head?_take, if_neg (by omega)]
      · rw [ne_eq, List.drop_eq_nil_iff]
        omega

theorem trimZeros_prefix (digits : List Char) : (trimZeros digits).1 <+: digits := by
  have h : digits.reverse.dropWhile (· == '0') <:+ digits.reverse := List.dropWhile_suffix _
  simpa [trimZeros] using List.reverse_prefix.2 h

end Positional

/-- **Every double is written as a numeral**, but for its sign. -/
theorem numeral_magnitude (m : Nat) (e : Int) : Numeral (plain.magnitude m e) := by
  unfold Form.magnitude
  split
  · exact .whole (by decide) (by decide)
  · simp only [plain, if_true]
    have hshortest : shortest .greater m e = ⟨0, 0⟩ ∨ (shortest .greater m e).digits ≠ 0 := shortest_digits
    rcases hshortest with hzero | hdigits
    · rw [hzero]
      exact .whole (by decide) (by decide)
    · set x := shortest .greater m e
      have hwritten : (significant x).1 = (trimZeros (Nat.toDigits 10 x.digits)).1 := rfl
      have hfront : (significant x).1 <+: Nat.toDigits 10 x.digits := trimZeros_prefix _
      have hhead : (Nat.toDigits 10 x.digits).head? ≠ some '0' := head?_toDigits (Nat.pos_of_ne_zero hdigits)
      have hne : (significant x).1 ≠ [] := by
        intro hnil
        rw [hwritten] at hnil
        have hall : ∀ c ∈ Nat.toDigits 10 x.digits, c = '0' := by
          simpa [trimZeros, List.dropWhile_eq_nil_iff] using hnil
        cases hcs : Nat.toDigits 10 x.digits with
        | nil => exact Nat.toDigits_ne_nil hcs
        | cons c cs =>
          rw [hcs] at hhead hall
          exact hhead (congrArg some (hall c List.mem_cons_self))
      refine numeral_writePositional hne (fun c hc => ?_) (fun hzero => hhead ?_) _
      · exact Nat.isDigit_of_mem_toDigits (by decide) (by decide) (hfront.subset hc)
      · obtain ⟨more, hmore⟩ := hfront
        rw [← hmore, List.head?_append_of_ne_nil _ hne, hzero]

theorem numeral_toDigits (n : Nat) : Numeral (Nat.toDigits 10 n) := .whole (isDigits_toDigits n) (isDecimal_toDigits n)

end Typeforge.Decimal
