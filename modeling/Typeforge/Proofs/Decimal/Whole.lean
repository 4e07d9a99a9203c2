import Typeforge.Code.Constant

/-!
# The texts of whole numbers

A whole number is written as a sign and digits (`isInteger`), be it an integer (`isInteger_toString`) or a double
that is whole, of whatever size (`isInteger_text`). The digits of such a double are found on a grid of whole numbers:
the search begins at its first digit, and the grid with step one holds the double itself, so that no finer one is tried
(`shortest_exponent`).
-/

namespace Typeforge.Decimal

open Code

/-- The text is a nonempty run of ASCII digits, after a minus sign or without one. -/
def isInteger (s : String) : Bool :=
  match s.toList with
  | '-' :: cs => isDigits cs
  | cs => isDigits cs

theorem isInteger_signed (negative : Bool) {cs : List Char} (h : isDigits cs = true) :
    isInteger (String.ofList ((if negative then ['-'] else []) ++ cs)) = true := by
  have hunsigned (ds : List Char) : cs ≠ '-' :: ds := by
    rintro rfl
    have hminus : Char.isDigit '-' = true := by
      simp only [isDigits, Bool.and_eq_true, List.all_cons] at h
      exact h.2.1
    exact absurd hminus (by decide)
  unfold isInteger
  cases negative with
  | true => simpa using h
  | false =>
    simp only [Bool.false_eq_true, if_false, List.nil_append, String.toList_ofList]
    exact h

theorem isDigits_toDigits (n : Nat) : isDigits (Nat.toDigits 10 n) = true := by
  have hall : ∀ c ∈ Nat.toDigits 10 n, c.isDigit = true := fun c hc =>
    Nat.isDigit_of_mem_toDigits (by decide) (by decide) hc
  simpa [isDigits, Nat.toDigits_ne_nil] using hall

theorem isInteger_toString (n : Int) : isInteger (toString n) = true := by
  cases n with
  | ofNat n =>
    have htext : toString (Int.ofNat n) = String.ofList ((if false then ['-'] else []) ++ Nat.toDigits 10 n) := by
      rw [← String.toList_inj]
      simp [toString, Int.repr, Nat.toList_repr]
    rw [htext]
    exact isInteger_signed false (isDigits_toDigits n)
  | negSucc n =>
    have htext : toString (Int.negSucc n) =
        String.ofList ((if true then ['-'] else []) ++ Nat.toDigits 10 (n + 1)) := by
      rw [← String.toList_inj]
      simp [toString, Int.repr, Nat.toList_repr]
    rw [htext]
    exact isInteger_signed true (isDigits_toDigits (n + 1))

/-! ### Grids -/

section Grids

variable {i : Interval} {tie : Tie} {x : Scaled} {exponent : Int}

theorem onGrid?_exponent (h : i.onGrid? tie exponent = some x) : x.exponent = exponent := by
  unfold Interval.onGrid? at h
  simp only at h
  split at h
  · cases h
    rfl
  · cases h
    rfl
  · cases h
    rfl
  · cases h

/-- The number and the two ends of its interval, where the number is whole. -/
structure Interval.Whole (i : Interval) : Prop where
  above : i.low < i.value
  below : i.value < i.high
  unit : 0 < i.unitNum
  whole : i.unitDen ∣ i.value * i.unitNum

/-- The grid with step one holds the number itself. -/
theorem Interval.Whole.onGrid? (h : i.Whole) (tie : Tie) : ∃ x, i.onGrid? tie 0 = some x := by
  obtain ⟨n, hn⟩ := h.whole
  have hvalue : 0 < i.value := Nat.lt_of_le_of_lt (Nat.zero_le _) h.above
  have hpos : 0 < i.unitDen * n := hn ▸ Nat.mul_pos hvalue h.unit
  have hden : 0 < i.unitDen := Nat.pos_of_mul_pos_right hpos
  have hfloor : i.value * i.unitNum / i.unitDen = n := by
    rw [hn, Nat.mul_div_cancel_left n hden]
  have hne : n ≠ 0 := by
    rintro rfl
    simp at hpos
  have hlow : i.low * i.unitNum < n * i.unitDen := by
    calc i.low * i.unitNum < i.value * i.unitNum := Nat.mul_lt_mul_of_pos_right h.above h.unit
      _ = n * i.unitDen := by rw [hn, Nat.mul_comm]
  have hhigh : n * i.unitDen < i.high * i.unitNum := by
    calc n * i.unitDen = i.value * i.unitNum := by rw [hn, Nat.mul_comm]
      _ < i.high * i.unitNum := Nat.mul_lt_mul_of_pos_right h.below h.unit
  have hinside : (if i.closed then decide (i.low * i.unitNum ≤ n * i.unitDen) &&
      decide (n * i.unitDen ≤ i.high * i.unitNum)
      else decide (i.low * i.unitNum < n * i.unitDen) && decide (n * i.unitDen < i.high * i.unitNum)) = true := by
    split
    · simp [Nat.le_of_lt hlow, Nat.le_of_lt hhigh]
    · simp [hlow, hhigh]
  have hkept : (n != 0) = true := by simpa using hne
  unfold Interval.onGrid?
  simp only [Int.lt_irrefl, if_false, Nat.mul_one, Int.natAbs_zero, Nat.pow_eq, Nat.pow_zero, Nat.one_mul, hfloor,
    hinside, hkept, Bool.and_self]
  split
  · exact ⟨_, rfl⟩
  · exact ⟨_, rfl⟩
  · exact ⟨_, rfl⟩
  · contradiction

theorem Interval.Whole.search (h : i.Whole) {fuel : Nat} (hexponent : 0 ≤ exponent)
    (hx : i.search tie exponent fuel = some x) : 0 ≤ x.exponent := by
  induction fuel generalizing exponent with
  | zero => cases hx
  | succ fuel ih =>
    rw [Interval.search] at hx
    cases hgrid : i.onGrid? tie exponent with
    | some y =>
      rw [hgrid] at hx
      cases hx
      rw [onGrid?_exponent hgrid]
      exact hexponent
    | none =>
      rw [hgrid] at hx
      have hne : exponent ≠ 0 := by
        rintro rfl
        obtain ⟨y, hy⟩ := h.onGrid? tie
        rw [hy] at hgrid
        cases hgrid
      have hnext : 0 ≤ exponent - 1 := by omega
      exact ih hnext hx

end Grids

/-! ### Doubles -/

section Doubles

variable {m : Nat} {e : Int} {tie : Tie}

/-- The denominator of a power of two divides four of the mantissa two places further down. -/
theorem dvd_powTwo (h : (Binary64.powTwo e).2 ∣ m) : (Binary64.powTwo (e - 2)).2 ∣ 4 * m := by
  unfold Binary64.powTwo at h ⊢
  by_cases he : e < 0
  · have he' : e - 2 < 0 := by omega
    have hplaces : (e - 2).natAbs = e.natAbs + 2 := by omega
    simp only [he, he', if_true, hplaces, Nat.pow_eq] at h ⊢
    rw [Nat.pow_add, Nat.mul_comm]
    exact Nat.mul_dvd_mul_left _ h
  · by_cases he' : e - 2 < 0
    · have hfour : Nat.pow 2 (e - 2).natAbs ∣ 4 := by
        obtain hplaces | hplaces : (e - 2).natAbs = 1 ∨ (e - 2).natAbs = 2 := by omega
        · simp [hplaces]
        · simp [hplaces]
      simp only [he', if_true]
      exact Nat.dvd_mul_right_of_dvd hfour m
    · simp [he']

theorem powTwo_pos (e : Int) : 0 < (Binary64.powTwo e).1 ∧ 0 < (Binary64.powTwo e).2 := by
  unfold Binary64.powTwo
  have hpow (k : Nat) : 0 < Nat.pow 2 k := Nat.pow_pos (by decide)
  split
  · exact ⟨Nat.one_pos, hpow _⟩
  · exact ⟨hpow _, Nat.one_pos⟩

theorem whole_of (hm : 0 < m) (h : (Binary64.powTwo e).2 ∣ m) : (Interval.of m e).Whole where
  above := by
    simp only [Interval.of]
    split <;> omega
  below := by
    simp only [Interval.of]
    omega
  unit := (powTwo_pos (e - 2)).1
  whole := Nat.dvd_mul_right_of_dvd (dvd_powTwo h) _

theorem pointPosition_pos (hm : 0 < m) (h : (Binary64.powTwo e).2 ∣ m) :
    1 ≤ pointPosition (m * (Binary64.powTwo e).1) (Binary64.powTwo e).2 := by
  have hle : (Binary64.powTwo e).2 ≤ m * (Binary64.powTwo e).1 := by
    calc (Binary64.powTwo e).2 ≤ m := Nat.le_of_dvd hm h
      _ ≤ m * (Binary64.powTwo e).1 := Nat.le_mul_of_pos_right m (powTwo_pos e).1
  have hlength := Nat.length_toDigits_pos (b := 10) (n := m * (Binary64.powTwo e).1 / (Binary64.powTwo e).2)
  rw [pointPosition, if_pos hle]
  omega

/-- The shortest decimal of a whole number is a whole number of some power of ten. -/
theorem shortest_exponent (h : (Binary64.powTwo e).2 ∣ m) : 0 ≤ (shortest tie m e).exponent := by
  by_cases hm : m = 0
  · simp [shortest, hm]
  have hpos : 0 < m := Nat.pos_of_ne_zero hm
  have hpoint := pointPosition_pos hpos h
  have hstart : 0 ≤ pointPosition (m * (Binary64.powTwo e).1) (Binary64.powTwo e).2 - 1 := by omega
  simp only [shortest, hm, if_false]
  cases hsearch : (Interval.of m e).search tie
      (pointPosition (m * (Binary64.powTwo e).1) (Binary64.powTwo e).2 - 1) 17 with
  | none => simp
  | some x => exact (whole_of hpos h).search hstart hsearch

end Doubles

/-! ### Digits -/

section Digits

variable {x : Scaled} {digits : List Char} {point : Int}

theorem trimZeros_sublist (digits : List Char) : (trimZeros digits).1.Sublist digits := by
  have h : ((digits.reverse.dropWhile (· == '0')).reverse).Sublist digits.reverse.reverse :=
    (List.dropWhile_sublist _).reverse
  rwa [List.reverse_reverse] at h

/-- Where the point stands behind all digits, only zeros follow them. -/
theorem isDigits_writePositional (hdigits : ∀ c ∈ digits, c.isDigit = true) (hpoint : 0 < point)
    (hlength : digits.length ≤ point.natAbs) : isDigits (writePositional "" digits point) = true := by
  have hbehind : ¬ point ≤ 0 := by omega
  have hfilled : (digits ++ zeros (point.natAbs - digits.length)).length = point.natAbs := by
    rw [List.length_append, zeros, List.length_replicate]
    omega
  have hne : digits ++ zeros (point.natAbs - digits.length) ≠ [] := by
    intro hnil
    rw [hnil, List.length_nil] at hfilled
    omega
  have hall : ∀ c ∈ digits ++ zeros (point.natAbs - digits.length), c.isDigit = true := by
    intro c hc
    rcases List.mem_append.1 hc with hc | hc
    · exact hdigits c hc
    · rw [List.eq_of_mem_replicate hc]
      decide
  have hwritten : writePositional "" digits point = digits ++ zeros (point.natAbs - digits.length) := by
    simp [writePositional, hbehind, hlength]
  rw [hwritten, isDigits, Bool.and_eq_true, List.all_eq_true]
  exact ⟨by simpa using hne, hall⟩

theorem isDigits_significant (h : 0 ≤ x.exponent) :
    isDigits (writePositional "" (significant x).1 (significant x).2) = true := by
  have hsublist : (significant x).1.Sublist (Nat.toDigits 10 x.digits) := trimZeros_sublist _
  have hpos := Nat.length_toDigits_pos (b := 10) (n := x.digits)
  have hpoint : (significant x).2 = (Nat.toDigits 10 x.digits).length + x.exponent := rfl
  have hlength := hsublist.length_le
  refine isDigits_writePositional (fun c hc => ?_) ?_ ?_
  · exact Nat.isDigit_of_mem_toDigits (by decide) (by decide) (hsublist.subset hc)
  · omega
  · omega

end Digits

end Typeforge.Decimal

namespace Typeforge

open Decimal

/-- **A double that is whole is written as an integer.** -/
theorem isInteger_text {x : Binary64} (h : x.isWhole = true) : isInteger x.text = true := by
  have hdvd : (Binary64.powTwo x.exponent).2 ∣ x.mantissa := by
    refine Nat.dvd_of_mod_eq_zero ?_
    simpa [Binary64.isWhole] using h
  refine isInteger_signed x.negative ?_
  unfold Form.magnitude
  split
  · rfl
  · exact isDigits_significant (shortest_exponent hdvd)

end Typeforge
