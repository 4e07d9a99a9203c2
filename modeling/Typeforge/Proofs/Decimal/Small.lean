import Typeforge.Proofs.Decimal.Whole
import Mathlib.Algebra.Group.Nat.Defs

/-!
# Small whole numbers

A whole number below `2 ^ 53` is a double. The interval that reads back as it holds no other whole number, so its
shortest decimal is the number itself (`shortest_small`), whose digits are those of the number (`written_small`).
-/

namespace Typeforge.Decimal

open Binary64 (powTwo)

variable {n k : Nat} {tie : Tie}

/-! ### The double -/

theorem powTwo_neg (k : Nat) : powTwo (-(k : Int)) = (1, 2 ^ k) := by
  unfold powTwo
  split
  · simp
  · rename_i h
    obtain rfl : k = 0 := by omega
    simp

/-- The scale on which the mantissa of a small number has 53 bits. -/
theorem scale_small (h0 : 0 < n) (h : n < 2 ^ 53) :
    2 ^ 52 ≤ n * 2 ^ (52 - n.log2) ∧ n * 2 ^ (52 - n.log2) < 2 ^ 53 := by
  have hne : n ≠ 0 := by omega
  have hlog : n.log2 < 53 := (Nat.log2_lt hne).2 h
  have hlow : 2 ^ n.log2 ≤ n := Nat.log2_self_le hne
  have hhigh : n < 2 ^ (n.log2 + 1) := Nat.lt_log2_self
  constructor
  · calc 2 ^ 52 = 2 ^ n.log2 * 2 ^ (52 - n.log2) := by rw [← Nat.pow_add]; congr 1; omega
      _ ≤ n * 2 ^ (52 - n.log2) := Nat.mul_le_mul_right _ hlow
  · calc n * 2 ^ (52 - n.log2) < 2 ^ (n.log2 + 1) * 2 ^ (52 - n.log2) :=
          Nat.mul_lt_mul_of_pos_right hhigh (Nat.pow_pos (by decide))
      _ = 2 ^ 53 := by rw [← Nat.pow_add]; congr 1; omega

theorem ofRatio_small (h0 : 0 < n) (h : n < 2 ^ 53) :
    Binary64.ofRatio false n 1 = some ⟨false, n * 2 ^ (52 - n.log2), -((52 - n.log2 : Nat) : Int)⟩ := by
  obtain ⟨hlow, hhigh⟩ := scale_small h0 h
  have hlog : n.log2 < 53 := (Nat.log2_lt (by omega)).2 h
  have hstart : (n.log2 : Int) - ((1 : Nat).log2 : Int) - 52 = -((52 - n.log2 : Nat) : Int) := by
    rw [show (1 : Nat).log2 = 0 from rfl]
    omega
  have hexponent : Binary64.exponentFor n 1 = -((52 - n.log2 : Nat) : Int) := by
    unfold Binary64.exponentFor
    simp only [hstart, powTwo_neg, Nat.mul_one, Nat.pow_eq, Binary64.minExponent]
    rw [if_neg (by omega)]
    omega
  have hround : Binary64.roundDiv (n * 2 ^ (52 - n.log2)) 1 = n * 2 ^ (52 - n.log2) := by
    simp [Binary64.roundDiv, Nat.mod_one]
  have hcarry : n * 2 ^ (52 - n.log2) ≠ 2 ^ 53 := by omega
  unfold Binary64.ofRatio
  rw [if_neg (by simp; omega), hexponent]
  simp only [powTwo_neg, Nat.mul_one, hround, Nat.pow_eq, hcarry, if_false]
  rw [if_neg (by simp only [Binary64.maxExponent]; omega)]

/-! ### The grids -/

/-- On a scale that is fine enough, only one whole number lies in the interval around `n`. -/
theorem near_iff {x unit below : Nat} (hunit : 4 ≤ unit) (hbelow : below ≤ 2) :
    (n * unit - below ≤ x * unit ∧ x * unit ≤ n * unit + 2 ↔ x = n) ∧
      (0 < below → 0 < n → (n * unit - below < x * unit ∧ x * unit < n * unit + 2 ↔ x = n)) := by
  have hlt (a b : Nat) (h : a < b) : a * unit + unit ≤ b * unit := by
    calc a * unit + unit = (a + 1) * unit := by rw [Nat.add_mul, Nat.one_mul]
      _ ≤ b * unit := Nat.mul_le_mul_right _ h
  rcases Nat.lt_trichotomy x n with hx | rfl | hx
  · have := hlt x n hx
    omega
  · exact ⟨by omega, fun hpos hx => by
      have := Nat.mul_pos hx (show 0 < unit by omega)
      omega⟩
  · have := hlt n x hx
    omega

/-- The interval around a small number, on a scale of four to the distance of the next double. -/
theorem of_small : ∃ below, 0 < below ∧ below ≤ 2 ∧ ∃ closed, Interval.of (n * 2 ^ k) (-(k : Int)) =
    ⟨n * 2 ^ (k + 2) - below, n * 2 ^ (k + 2), n * 2 ^ (k + 2) + 2, closed, 1, 2 ^ (k + 2)⟩ := by
  have hscale : 4 * (n * 2 ^ k) = n * 2 ^ (k + 2) := by
    calc 4 * (n * 2 ^ k) = n * 2 ^ k * 2 ^ 2 := Nat.mul_comm 4 (n * 2 ^ k)
      _ = n * 2 ^ (k + 2) := by rw [Nat.mul_assoc, ← Nat.pow_add]
  have hdown : -(k : Int) - 2 = -((k + 2 : Nat) : Int) := by omega
  unfold Interval.of
  simp only [hdown, powTwo_neg, hscale]
  split
  · exact ⟨1, by omega, by omega, _, rfl⟩
  · exact ⟨2, by omega, by omega, _, rfl⟩

theorem onGrid?_small (h0 : 0 < n) (tie : Tie) (exponent : Nat) :
    (Interval.of (n * 2 ^ k) (-(k : Int))).onGrid? tie exponent =
      if 10 ^ exponent ∣ n then some ⟨n / 10 ^ exponent, exponent⟩ else none := by
  obtain ⟨below, hpos, hbelow, closed, hinterval⟩ := of_small (n := n) (k := k)
  have hunit : 4 ≤ 2 ^ (k + 2) := by
    rw [Nat.pow_add]
    have := Nat.pow_pos (n := k) (show 0 < 2 by decide)
    omega
  have hten : 0 < 10 ^ exponent := Nat.pow_pos (by decide)
  have hfloor : n * 2 ^ (k + 2) / (10 ^ exponent * 2 ^ (k + 2)) = n / 10 ^ exponent :=
    Nat.mul_div_mul_right n _ (by omega)
  have hinside (c : Nat) : (if closed then decide (n * 2 ^ (k + 2) - below ≤ c * (10 ^ exponent * 2 ^ (k + 2))) &&
      decide (c * (10 ^ exponent * 2 ^ (k + 2)) ≤ n * 2 ^ (k + 2) + 2)
      else decide (n * 2 ^ (k + 2) - below < c * (10 ^ exponent * 2 ^ (k + 2))) &&
      decide (c * (10 ^ exponent * 2 ^ (k + 2)) < n * 2 ^ (k + 2) + 2)) = decide (c * 10 ^ exponent = n) := by
    rw [← Nat.mul_assoc]
    have near := near_iff (n := n) (x := c * 10 ^ exponent) hunit hbelow
    split
    · rw [← Bool.decide_and, decide_eq_decide]
      exact near.1
    · rw [← Bool.decide_and, decide_eq_decide]
      exact near.2 hpos h0
  have hnext : decide ((n / 10 ^ exponent + 1) * 10 ^ exponent = n) = false := by
    have := Nat.lt_div_mul_add (a := n) hten
    rw [decide_eq_false_iff_not, Nat.add_mul]
    omega
  unfold Interval.onGrid?
  rw [hinterval]
  simp only [Int.not_lt.2 (Int.natCast_nonneg exponent), if_false, Int.natAbs_natCast, Nat.pow_eq, Nat.mul_one,
    hfloor, hinside, hnext]
  by_cases hdvd : 10 ^ exponent ∣ n
  · have hexact : n / 10 ^ exponent * 10 ^ exponent = n := Nat.div_mul_cancel hdvd
    have hne : (n / 10 ^ exponent != 0) = true := by
      rw [bne_iff_ne]
      intro hzero
      rw [hzero] at hexact
      omega
    simp only [hdvd, hexact, hne, decide_true, Bool.and_self, if_true]
  · have hinexact : n / 10 ^ exponent * 10 ^ exponent ≠ n := fun h => hdvd ⟨_, by rw [Nat.mul_comm, h]⟩
    simp [hdvd, hinexact]

theorem search_small (h0 : 0 < n) (k : Nat) (tie : Tie) {exponent fuel : Nat} (h : exponent < fuel) :
    ∃ j : Nat, 10 ^ j ∣ n ∧
      (Interval.of (n * 2 ^ k) (-(k : Int))).search tie exponent fuel = some ⟨n / 10 ^ j, j⟩ := by
  induction exponent generalizing fuel with
  | zero =>
    obtain ⟨fuel, rfl⟩ : ∃ f, fuel = f + 1 := ⟨fuel - 1, by omega⟩
    refine ⟨0, by simp, ?_⟩
    rw [Interval.search, onGrid?_small h0]
    simp
  | succ exponent ih =>
    obtain ⟨fuel, rfl⟩ : ∃ f, fuel = f + 1 := ⟨fuel - 1, by omega⟩
    by_cases hdvd : 10 ^ (exponent + 1) ∣ n
    · refine ⟨exponent + 1, hdvd, ?_⟩
      rw [Interval.search, onGrid?_small h0, if_pos hdvd]
      rfl
    · have hfuel : exponent < fuel := by omega
      obtain ⟨j, hj, hsearch⟩ := ih hfuel
      refine ⟨j, hj, ?_⟩
      rw [Interval.search, onGrid?_small h0, if_neg hdvd]
      rw [show ((exponent + 1 : Nat) : Int) - 1 = (exponent : Int) by omega, hsearch]
      rfl

/-- **The shortest decimal of a small number is the number.** -/
theorem shortest_small (h0 : 0 < n) (h : n < 2 ^ 53) (tie : Tie) : ∃ j : Nat, 10 ^ j ∣ n ∧
    shortest tie (n * 2 ^ (52 - n.log2)) (-((52 - n.log2 : Nat) : Int)) = ⟨n / 10 ^ j, j⟩ := by
  generalize 52 - n.log2 = k
  have hpow : 0 < 2 ^ k := Nat.pow_pos (by decide)
  have hlength : (Nat.toDigits 10 n).length ≤ 16 :=
    (Nat.length_toDigits_le_iff (by decide) (by decide)).2 (Nat.lt_trans h (by decide))
  have hpos := Nat.length_toDigits_pos (b := 10) (n := n)
  have hpoint : pointPosition (n * 2 ^ k * 1) (2 ^ k) - 1 = (((Nat.toDigits 10 n).length - 1 : Nat) : Int) := by
    unfold pointPosition
    rw [Nat.mul_one, if_pos (Nat.le_mul_of_pos_left _ h0), Nat.mul_div_cancel _ hpow]
    omega
  obtain ⟨j, hj, hsearch⟩ := search_small h0 k tie (show (Nat.toDigits 10 n).length - 1 < 17 by omega)
  refine ⟨j, hj, ?_⟩
  have hne : n * 2 ^ k ≠ 0 := Nat.ne_of_gt (Nat.mul_pos h0 hpow)
  unfold shortest
  simp only [powTwo_neg, hne, if_false, hpoint, hsearch, Option.getD_some]

/-! ### The digits -/

theorem toDigits_mul_pow {d : Nat} (h : 0 < d) (j : Nat) :
    Nat.toDigits 10 (d * 10 ^ j) = Nat.toDigits 10 d ++ zeros j := by
  induction j with
  | zero => simp [zeros]
  | succ j ih =>
    have hpos : 0 < d * 10 ^ j := Nat.mul_pos h (Nat.pow_pos (by decide))
    have hstep := Nat.toDigits_append_toDigits (b := 10) (d := 0) (by decide) hpos (by decide)
    calc Nat.toDigits 10 (d * 10 ^ (j + 1)) = Nat.toDigits 10 (10 * (d * 10 ^ j) + 0) := by
          rw [Nat.pow_succ, ← Nat.mul_assoc, Nat.mul_comm, Nat.add_zero]
      _ = Nat.toDigits 10 (d * 10 ^ j) ++ Nat.toDigits 10 0 := hstep.symm
      _ = Nat.toDigits 10 d ++ zeros j ++ ['0'] := by rw [ih]; rfl
      _ = Nat.toDigits 10 d ++ zeros (j + 1) := by rw [List.append_assoc, zeros, zeros, List.replicate_succ']

theorem trimZeros_append (digits : List Char) :
    (trimZeros digits).1 ++ zeros (digits.length - (trimZeros digits).1.length) = digits := by
  have hsplit := List.takeWhile_append_dropWhile (p := (· == '0')) (l := digits.reverse)
  have hlength := congrArg List.length hsplit
  have hzeros : (digits.reverse.takeWhile (· == '0')) = zeros (digits.reverse.takeWhile (· == '0')).length :=
    List.eq_replicate_of_mem fun c hc => by simpa using List.all_eq_true.1 List.all_takeWhile c hc
  simp only [List.length_append, List.length_reverse] at hlength
  have hcount : digits.length - (trimZeros digits).1.length = (digits.reverse.takeWhile (· == '0')).length := by
    simp only [trimZeros, List.length_reverse]
    omega
  rw [hcount, trimZeros]
  simp only
  rw [← List.reverse_inj, List.reverse_append, List.reverse_reverse]
  rw [show (zeros (digits.reverse.takeWhile (· == '0')).length).reverse = digits.reverse.takeWhile (· == '0') by
    rw [zeros, List.reverse_replicate, ← zeros, ← hzeros]]
  exact hsplit

theorem written_scaled {d : Nat} (h : 0 < d) (j : Nat) :
    (significant ⟨d, j⟩).2 = (Nat.toDigits 10 (d * 10 ^ j)).length ∧
      writePositional "" (significant ⟨d, j⟩).1 (significant ⟨d, j⟩).2 = Nat.toDigits 10 (d * 10 ^ j) := by
  have hpos := Nat.length_toDigits_pos (b := 10) (n := d)
  have hlength := (trimZeros_sublist (Nat.toDigits 10 d)).length_le
  have hpoint : (significant ⟨d, j⟩).2 = (((Nat.toDigits 10 d).length + j : Nat) : Int) := rfl
  have hdigits : (significant ⟨d, j⟩).1 = (trimZeros (Nat.toDigits 10 d)).1 := rfl
  rw [toDigits_mul_pow h, hpoint, hdigits]
  refine ⟨by rw [List.length_append, zeros, List.length_replicate], ?_⟩
  unfold writePositional
  rw [if_neg (by omega), if_pos (by rw [Int.natAbs_natCast]; omega), Int.natAbs_natCast]
  simp only [String.toList_empty, List.append_nil]
  calc (trimZeros (Nat.toDigits 10 d)).1
        ++ zeros ((Nat.toDigits 10 d).length + j - (trimZeros (Nat.toDigits 10 d)).1.length)
      = (trimZeros (Nat.toDigits 10 d)).1
        ++ zeros ((Nat.toDigits 10 d).length - (trimZeros (Nat.toDigits 10 d)).1.length + j) := by congr 2; omega
    _ = (trimZeros (Nat.toDigits 10 d)).1
        ++ zeros ((Nat.toDigits 10 d).length - (trimZeros (Nat.toDigits 10 d)).1.length) ++ zeros j := by
          rw [List.append_assoc, zeros, zeros, zeros, List.replicate_append_replicate]
    _ = Nat.toDigits 10 d ++ zeros j := by rw [trimZeros_append]

/-- **A small number is written by its digits.** -/
theorem written_small (h0 : 0 < n) (h : n < 2 ^ 53) (tie : Tie) :
    let x := significant (shortest tie (n * 2 ^ (52 - n.log2)) (-((52 - n.log2 : Nat) : Int)))
    x.2 = (Nat.toDigits 10 n).length ∧ writePositional "" x.1 x.2 = Nat.toDigits 10 n := by
  obtain ⟨j, hj, hshortest⟩ := shortest_small h0 h tie
  have hexact : n / 10 ^ j * 10 ^ j = n := Nat.div_mul_cancel hj
  have hpos : 0 < n / 10 ^ j := by
    refine Nat.pos_of_ne_zero fun hzero => ?_
    rw [hzero] at hexact
    omega
  rw [hshortest]
  have written := written_scaled hpos j
  rwa [hexact] at written

end Typeforge.Decimal
