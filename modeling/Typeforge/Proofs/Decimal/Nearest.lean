import Typeforge.Proofs.Decimal.Small

/-!
# The doubles nearest to great whole numbers

From `2 ^ 53` on not every whole number is a double. Those that have one double as the nearest are the ones in the
interval around it (`ofNat_eq_iff`). It reaches half way to the next double on either side, and holds its ends if the
mantissa is even; below a power of two the doubles lie twice as close.

* `roundsTo_iff`: what it is to round a quotient;
* `ofNat_eq`: the double of a number between two powers of two;
* `ofNat_eq_iff`: the numbers that have one double.
-/

namespace Typeforge.Binary64

/-! ### Rounding -/

/-- `num / den` is no more than a half away from `r`, and less than a half if `r` is odd. -/
structure RoundsTo (num den r : Nat) : Prop where
  low : 2 * (r * den) ≤ 2 * num + den
  high : 2 * num ≤ 2 * (r * den) + den
  tie : r % 2 = 1 → 2 * (r * den) ≠ 2 * num + den ∧ 2 * num ≠ 2 * (r * den) + den

section Rounding

variable {num den r r' : Nat}

theorem roundsTo_roundDiv (hden : 0 < den) : RoundsTo num den (roundDiv num den) := by
  have hsplit : num / den * den + num % den = num := Nat.div_add_mod' num den
  have hrest : num % den < den := Nat.mod_lt num hden
  have hnext : (num / den + 1) * den = num / den * den + den := Nat.succ_mul _ _
  unfold roundDiv
  simp only [Bool.or_eq_true, decide_eq_true_eq, Bool.and_eq_true, beq_iff_eq]
  split
  · rename_i hup
    refine ⟨?_, ?_, ?_⟩ <;> rw [hnext] <;> omega
  · rename_i hdown
    refine ⟨?_, ?_, ?_⟩ <;> omega

/-- Two neighbours are both a half away only where one of them is odd. -/
theorem RoundsTo.le (hden : 0 < den) (h : RoundsTo num den r) (h' : RoundsTo num den r') : r' ≤ r := by
  refine Nat.le_of_not_lt fun hlt => ?_
  have hnext : (r + 1) * den = r * den + den := Nat.succ_mul r den
  have hle : (r + 1) * den ≤ r' * den := Nat.mul_le_mul_right den (by omega)
  have hlow := h'.low
  have hhigh := h.high
  -- so both are a half away, and they are neighbours
  have heq : r' * den = r * den + den := by omega
  have hsucc : r' = r + 1 := Nat.eq_of_mul_eq_mul_right hden (heq.trans hnext.symm)
  rcases Nat.mod_two_eq_zero_or_one r with heven | hodd
  · exact (h'.tie (by omega)).1 (by omega)
  · exact (h.tie hodd).2 (by omega)

theorem roundsTo_iff (hden : 0 < den) : RoundsTo num den r ↔ roundDiv num den = r := by
  constructor
  · intro h
    exact Nat.le_antisymm (h.le hden (roundsTo_roundDiv hden)) ((roundsTo_roundDiv hden).le hden h)
  · rintro rfl
    exact roundsTo_roundDiv hden

end Rounding

/-! ### Between two powers of two -/

section Binade

variable {n s : Nat}

theorem powTwo_natCast (k : Nat) : powTwo k = (2 ^ k, 1) := by
  unfold powTwo
  rw [if_neg (Int.not_lt.2 (Int.natCast_nonneg k)), Int.natAbs_natCast]
  rfl

theorem exponentFor_eq (hlow : 2 ^ 52 * 2 ^ s ≤ n) (hhigh : n < 2 ^ 53 * 2 ^ s) : exponentFor n 1 = s := by
  have hlog : n.log2 = 52 + s := by
    refine (Nat.log2_eq_iff (by omega)).2 ⟨?_, ?_⟩
    · rwa [Nat.pow_add]
    · rwa [show 52 + s + 1 = 53 + s by omega, Nat.pow_add]
  have hstart : (n.log2 : Int) - ((1 : Nat).log2 : Int) - 52 = (s : Int) := by
    rw [hlog, show (1 : Nat).log2 = 0 from rfl]
    omega
  unfold exponentFor
  simp only [hstart, powTwo_natCast, Nat.mul_one, Nat.one_mul, Nat.pow_eq, minExponent]
  rw [if_neg (by omega)]
  omega

/-- **The double of a number from `2 ^ (52 + s)` up to the next power of two**: the mantissa is the number of steps of
`2 ^ s`, rounded, unless it is carried to the next power. -/
theorem ofNat_eq (hlow : 2 ^ 52 * 2 ^ s ≤ n) (hhigh : n < 2 ^ 53 * 2 ^ s) : ofNat n =
    if roundDiv n (2 ^ s) = 2 ^ 53 then if 971 < s + 1 then zero else ⟨false, 2 ^ 52, (s + 1 : Nat)⟩
    else if 971 < s then zero else ⟨false, roundDiv n (2 ^ s), s⟩ := by
  have hpow : 0 < 2 ^ s := Nat.pow_pos (by decide)
  have hne : n ≠ 0 := by omega
  unfold ofNat ofRatio
  rw [if_neg (by simpa using hne), exponentFor_eq hlow hhigh]
  simp only [powTwo_natCast, Nat.mul_one, Nat.one_mul, Nat.pow_eq, maxExponent]
  by_cases hcarry : roundDiv n (2 ^ s) = 2 ^ 53
  · simp only [hcarry, if_true]
    split
    · rw [if_pos (by omega), Option.getD_none]
    · rw [if_neg (by omega), Option.getD_some]
      rfl
  · simp only [hcarry, if_false]
    split
    · rw [if_pos (by omega), Option.getD_none]
    · rw [if_neg (by omega), Option.getD_some]

theorem exists_binade (h : 2 ^ 52 ≤ n) : ∃ s, 2 ^ 52 * 2 ^ s ≤ n ∧ n < 2 ^ 53 * 2 ^ s := by
  have hne : n ≠ 0 := by omega
  have hlog : 52 ≤ n.log2 := (Nat.le_log2 hne).2 h
  refine ⟨n.log2 - 52, ?_, ?_⟩
  · rw [← Nat.pow_add, show 52 + (n.log2 - 52) = n.log2 by omega]
    exact Nat.log2_self_le hne
  · rw [← Nat.pow_add, show 53 + (n.log2 - 52) = n.log2 + 1 by omega]
    exact Nat.lt_log2_self

/-- From `2 ^ 53` on not every number there is a mantissa times a power of two. -/
theorem exists_wide_binade (h : 2 ^ 53 ≤ n) : ∃ s, 1 ≤ s ∧ 2 ^ 52 * 2 ^ s ≤ n ∧ n < 2 ^ 53 * 2 ^ s := by
  obtain ⟨s, hlow, hhigh⟩ := exists_binade (n := n) (by omega)
  refine ⟨s, Nat.pos_of_ne_zero fun hzero => ?_, hlow, hhigh⟩
  subst hzero
  omega

theorem roundDiv_bounds (hlow : 2 ^ 52 * 2 ^ s ≤ n) (hhigh : n < 2 ^ 53 * 2 ^ s) :
    2 ^ 52 ≤ roundDiv n (2 ^ s) ∧ roundDiv n (2 ^ s) ≤ 2 ^ 53 := by
  have hpow : 0 < 2 ^ s := Nat.pow_pos (by decide)
  have hfloor : 2 ^ 52 ≤ n / 2 ^ s := (Nat.le_div_iff_mul_le hpow).2 hlow
  have hceil : n / 2 ^ s < 2 ^ 53 := (Nat.div_lt_iff_lt_mul hpow).2 hhigh
  unfold roundDiv
  simp only
  split <;> omega

theorem exponent_of_small (h : n < 2 ^ 53) : (ofNat n).exponent ≤ 0 := by
  rcases Nat.eq_zero_or_pos n with rfl | hpos
  · decide
  · rw [ofNat, Decimal.ofRatio_small hpos h]
    simp only [Option.getD_some]
    omega

theorem exponent_of_large (h : 2 ^ 53 ≤ n) (hne : ofNat n ≠ zero) : 1 ≤ (ofNat n).exponent := by
  obtain ⟨s, hs, hlow, hhigh⟩ := exists_wide_binade h
  rw [ofNat_eq hlow hhigh] at hne ⊢
  by_cases hcarry : roundDiv n (2 ^ s) = 2 ^ 53
  · rw [if_pos hcarry] at hne ⊢
    have hfits : ¬ 971 < s + 1 := fun hbeyond => hne (if_pos hbeyond)
    rw [if_neg hfits]
    simp only
    omega
  · rw [if_neg hcarry] at hne ⊢
    have hfits : ¬ 971 < s := fun hbeyond => hne (if_pos hbeyond)
    rw [if_neg hfits]
    simp only
    omega

end Binade

/-! ### The numbers of one double -/

/-- The distance to the double below `m · 2 ^ e`, in halves of the distance to the one above. -/
def below (m : Nat) : Nat := if m = 2 ^ 52 then 1 else 2

/-- The number `j` lies in the interval around `m · 2 ^ e`. -/
structure Near (m e j : Nat) : Prop where
  low : 4 * (m * 2 ^ e) ≤ 4 * j + below m * 2 ^ e
  high : 4 * j ≤ 4 * (m * 2 ^ e) + 2 * 2 ^ e
  ends : m % 2 = 1 → 4 * (m * 2 ^ e) ≠ 4 * j + below m * 2 ^ e ∧ 4 * j ≠ 4 * (m * 2 ^ e) + 2 * 2 ^ e

section Near

variable {m e j k n : Nat}

instance (m e j : Nat) : Decidable (Near m e j) :=
  decidable_of_iff (4 * (m * 2 ^ e) ≤ 4 * j + below m * 2 ^ e ∧ 4 * j ≤ 4 * (m * 2 ^ e) + 2 * 2 ^ e ∧
    (m % 2 = 1 → 4 * (m * 2 ^ e) ≠ 4 * j + below m * 2 ^ e ∧ 4 * j ≠ 4 * (m * 2 ^ e) + 2 * 2 ^ e))
    ⟨fun ⟨low, high, ends⟩ => ⟨low, high, ends⟩, fun ⟨low, high, ends⟩ => ⟨low, high, ends⟩⟩

theorem below_cases (m : Nat) : m = 2 ^ 52 ∧ below m = 1 ∨ m ≠ 2 ^ 52 ∧ below m = 2 := by
  unfold below
  split
  · rename_i h
    exact .inl ⟨h, rfl⟩
  · rename_i h
    exact .inr ⟨h, rfl⟩

theorem near_of_roundsTo (hj : 2 ^ 52 * 2 ^ e ≤ j) (h : RoundsTo j (2 ^ e) m) : Near m e j := by
  obtain ⟨low, high, tie⟩ := h
  rcases below_cases m with ⟨hm, hbelow⟩ | ⟨hm, hbelow⟩
  · subst hm
    exact ⟨by omega, by omega, by omega⟩
  · refine ⟨by rw [hbelow]; omega, by omega, fun hodd => ?_⟩
    obtain ⟨hlow, hhigh⟩ := tie hodd
    rw [hbelow]
    omega

/-- A number is near, too, where its mantissa is carried to a power of two. -/
theorem near_of_carry (hj : j < 2 ^ 53 * 2 ^ e) (h : RoundsTo j (2 ^ e) (2 ^ 53)) : Near (2 ^ 52) (e + 1) j := by
  have hpow : 2 ^ (e + 1) = 2 * 2 ^ e := by rw [Nat.pow_succ, Nat.mul_comm]
  have hlow := h.low
  have hbelow : below (2 ^ 52) = 1 := rfl
  refine ⟨?_, ?_, by omega⟩
  · rw [hpow, hbelow]
    omega
  · rw [hpow]
    omega

/-- The numbers that have a great double as the nearest lie in the interval around it. -/
theorem near_of_ofNat_eq (he : 1 ≤ e) (hm : 2 ^ 52 ≤ m) (h : ofNat j = ⟨false, m, e⟩) : Near m e j := by
  by_cases hsmall : j < 2 ^ 53
  · -- a small number has a lesser exponent
    have hexponent : (ofNat j).exponent ≤ 0 := exponent_of_small hsmall
    rw [h] at hexponent
    simp only at hexponent
    omega
  · obtain ⟨s, hlow, hhigh⟩ := exists_binade (n := j) (by omega)
    have hround : RoundsTo j (2 ^ s) (roundDiv j (2 ^ s)) := roundsTo_roundDiv (Nat.pow_pos (by decide))
    have hzero : zero ≠ ⟨false, m, e⟩ := by
      intro heq
      have hmantissa : 0 = m := congrArg mantissa heq
      omega
    rw [ofNat_eq hlow hhigh] at h
    split at h
    · rename_i hcarry
      split at h
      · exact absurd h hzero
      · obtain ⟨rfl, hexponent⟩ : 2 ^ 52 = m ∧ ((s + 1 : Nat) : Int) = e :=
          ⟨congrArg mantissa h, congrArg exponent h⟩
        obtain rfl : s + 1 = e := by omega
        exact near_of_carry hhigh (hcarry ▸ hround)
    · split at h
      · exact absurd h hzero
      · obtain ⟨rfl, hexponent⟩ : roundDiv j (2 ^ s) = m ∧ (s : Int) = e :=
          ⟨congrArg mantissa h, congrArg exponent h⟩
        obtain rfl : s = e := by omega
        exact near_of_roundsTo hlow hround

theorem roundsTo_of_near (h : Near m e j) : RoundsTo j (2 ^ e) m := by
  obtain ⟨low, high, ends⟩ := h
  rcases below_cases m with ⟨rfl, hbelow⟩ | ⟨-, hbelow⟩
  · rw [hbelow] at low
    exact ⟨by omega, by omega, by omega⟩
  · rw [hbelow] at low ends
    exact ⟨by omega, by omega, by omega⟩

/-- Only at a power of two there are near numbers with fewer bits, and they are carried to it. -/
theorem Near.carried (hm : 2 ^ 52 ≤ m) (h : Near m (e + 1) j) (hj : j < 2 ^ 52 * 2 ^ (e + 1)) :
    m = 2 ^ 52 ∧ 2 ^ 52 * 2 ^ e ≤ j ∧ RoundsTo j (2 ^ e) (2 ^ 53) := by
  have hdouble : 2 ^ (e + 1) = 2 * 2 ^ e := by rw [Nat.pow_succ, Nat.mul_comm]
  have low := h.low
  obtain ⟨rfl, hbelow⟩ : m = 2 ^ 52 ∧ below m = 1 := by
    refine (below_cases m).resolve_right fun ⟨hne, hbelow⟩ => ?_
    have hnext : 2 ^ 52 * 2 ^ (e + 1) + 2 ^ (e + 1) ≤ m * 2 ^ (e + 1) := by
      rw [← Nat.succ_mul]
      exact Nat.mul_le_mul_right _ (by omega)
    rw [hbelow] at low
    omega
  rw [hbelow, hdouble] at low
  rw [hdouble] at hj
  exact ⟨rfl, by omega, by omega, by omega, by omega⟩

/-- **The numbers that have a great double as the nearest** are those in the interval around it. -/
theorem ofNat_eq_iff (he : 1 ≤ e) (he' : e ≤ 971) (hm : 2 ^ 52 ≤ m) (hm' : m < 2 ^ 53) :
    ofNat j = ⟨false, m, e⟩ ↔ Near m e j := by
  refine ⟨near_of_ofNat_eq he hm, fun h => ?_⟩
  have hpow : 0 < 2 ^ e := Nat.pow_pos (by decide)
  have hback : m * 2 ^ e + 2 ^ e ≤ 2 ^ 53 * 2 ^ e := by
    rw [← Nat.succ_mul]
    exact Nat.mul_le_mul_right _ hm'
  have hhigh := h.high
  by_cases hj : 2 ^ 52 * 2 ^ e ≤ j
  · have hround : roundDiv j (2 ^ e) = m := (roundsTo_iff (Nat.pow_pos (by decide))).1 (roundsTo_of_near h)
    rw [ofNat_eq hj (by omega), hround, if_neg (by omega), if_neg (by omega)]
  · obtain ⟨s, rfl⟩ : ∃ s, e = s + 1 := ⟨e - 1, by omega⟩
    obtain ⟨rfl, hlow, hcarry⟩ := h.carried hm (Nat.not_le.1 hj)
    have hround : roundDiv j (2 ^ s) = 2 ^ 53 := (roundsTo_iff (Nat.pow_pos (by decide))).1 hcarry
    have hdouble : 2 ^ (s + 1) = 2 * 2 ^ s := by rw [Nat.pow_succ, Nat.mul_comm]
    rw [ofNat_eq hlow (by omega), hround, if_pos rfl, if_neg (by omega)]

theorem exists_large (h : 2 ^ 53 ≤ n) (h' : n < 2 ^ 64) : ∃ m e, 1 ≤ e ∧ e ≤ 971 ∧ 2 ^ 52 ≤ m ∧ m < 2 ^ 53 ∧
    ofNat n = ⟨false, m, (e : Nat)⟩ := by
  obtain ⟨s, hs, hlow, hhigh⟩ := exists_wide_binade h
  obtain ⟨hmin, hmax⟩ := roundDiv_bounds hlow hhigh
  have hs' : s ≤ 11 := by
    refine Nat.le_of_not_lt fun hgreat => ?_
    have hpow : 2 ^ 12 ≤ 2 ^ s := Nat.pow_le_pow_right (by decide) hgreat
    omega
  rw [ofNat_eq hlow hhigh]
  split
  · rw [if_neg (by omega)]
    exact ⟨2 ^ 52, s + 1, by omega, by omega, by omega, by omega, rfl⟩
  · rw [if_neg (by omega)]
    exact ⟨_, s, hs, by omega, hmin, by omega, rfl⟩

end Near

end Typeforge.Binary64
