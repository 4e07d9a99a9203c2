import Typeforge.Proofs.Decimal.Nearest

/-!
# How great whole numbers are written

The text of a double that is whole shows a whole number that has the double as the nearest; of these it is the roundest
(`Roundest`): none of them has more zeros at the end, and of those that have as many it is the nearest to the double. So
a number is written by its own digits just if it is the roundest itself, as every number below `2 ^ 53` is.

* `onGrid?_eq`: what a grid of whole numbers holds of the interval around a great double;
* `search_first`: the search ends on the widest grid that holds anything of it;
* `shortest_roundest`: the shortest decimal of a great double is the roundest number;
* `exists_roundest`: how the double of a number is written;
* `Roundest.unique`, `roundest_small`.
-/

namespace Typeforge.Decimal

open Binary64 (powTwo Near below below_cases powTwo_natCast ofNat_eq_iff exists_large)

/-! ### Nearer and rounder -/

/-- To `v`, the number `r` is nearer than `j`, or as near and no less. -/
def Closer (v r j : Nat) : Prop :=
  ((v : Int) - r).natAbs < ((v : Int) - j).natAbs ∨ ((v : Int) - r).natAbs = ((v : Int) - j).natAbs ∧ j ≤ r

/-- The number that a double is, without its sign, where it is whole. -/
def magnitude (x : Binary64) : Nat := x.mantissa * (powTwo x.exponent).1 / (powTwo x.exponent).2

/-- Of the whole numbers that have the same double as `n`, the number `r` is the roundest. -/
structure Roundest (n r : Nat) : Prop where
  same : Binary64.ofNat r = Binary64.ofNat n
  /-- None of them has more zeros at the end, -/
  zeros : ∀ k j, Binary64.ofNat j = Binary64.ofNat n → 10 ^ k ∣ j → 10 ^ k ∣ r
  /-- and of those that have as many, none is nearer to the double. -/
  nearest : ∀ j, Binary64.ofNat j = Binary64.ofNat n → (∀ k, 10 ^ k ∣ r → 10 ^ k ∣ j) →
    Closer (magnitude (Binary64.ofNat n)) r j

/-- The double is whole and not negative, and its text has the digits of `r`. -/
structure Written (x : Binary64) (r : Nat) : Prop where
  positive : x.negative = false
  whole : x.isWhole = true
  digits : plain.magnitude x.mantissa x.exponent = Nat.toDigits 10 r

theorem Roundest.unique {n r r' : Nat} (h : Roundest n r) (h' : Roundest n r') : r = r' := by
  have hle := h.nearest r' h'.same fun k hk => h'.zeros k r h.same hk
  have hge := h'.nearest r h.same fun k hk => h.zeros k r' h'.same hk
  unfold Closer at hle hge
  omega

/-! ### Scales -/

section Scale

variable {m e k p q a x : Nat}

/-- The scale of the interval around `m · 2 ^ e`. -/
theorem powTwo_down (he : 1 ≤ e) : ∃ p q, powTwo ((e : Int) - 2) = (p, q) ∧ 0 < q ∧ 4 * p = q * 2 ^ e := by
  obtain rfl | ⟨e, rfl⟩ : e = 1 ∨ ∃ e', e = e' + 2 := by
    by_cases h : e = 1
    · exact .inl h
    · exact .inr ⟨e - 2, by omega⟩
  · exact ⟨1, 2, by decide, by decide, by decide⟩
  · refine ⟨2 ^ e, 1, ?_, by decide, ?_⟩
    · rw [show ((e + 2 : Nat) : Int) - 2 = (e : Nat) by omega, powTwo_natCast]
    · rw [Nat.one_mul, Nat.pow_add, Nat.mul_comm]

/-- To compare on this scale is to compare quarters of the distance between doubles. -/
theorem scale_iff (hq : 0 < q) (hscale : 4 * p = q * 2 ^ e) :
    (a * p ≤ x * q ↔ a * 2 ^ e ≤ 4 * x) ∧ (x * q ≤ a * p ↔ 4 * x ≤ a * 2 ^ e) := by
  have hleft : 4 * (a * p) = q * (a * 2 ^ e) := by rw [Nat.mul_left_comm, hscale, Nat.mul_left_comm]
  have hright : 4 * (x * q) = q * (4 * x) := by rw [← Nat.mul_assoc, Nat.mul_comm]
  constructor
  · calc a * p ≤ x * q ↔ 4 * (a * p) ≤ 4 * (x * q) := by omega
      _ ↔ q * (a * 2 ^ e) ≤ q * (4 * x) := by rw [hleft, hright]
      _ ↔ a * 2 ^ e ≤ 4 * x := Nat.mul_le_mul_left_iff hq
  · calc x * q ≤ a * p ↔ 4 * (x * q) ≤ 4 * (a * p) := by omega
      _ ↔ q * (4 * x) ≤ q * (a * 2 ^ e) := by rw [hleft, hright]
      _ ↔ 4 * x ≤ a * 2 ^ e := Nat.mul_le_mul_left_iff hq

/-- The interval by its ends, of which an even mantissa holds both. -/
theorem near_iff_ends (hm : 2 ^ 52 ≤ m) {j : Nat} : Near m e j ↔
    if (m % 2 == 0) = true then (4 * m - below m) * 2 ^ e ≤ 4 * j ∧ 4 * j ≤ (4 * m + 2) * 2 ^ e
    else (4 * m - below m) * 2 ^ e < 4 * j ∧ 4 * j < (4 * m + 2) * 2 ^ e := by
  have hpow : 0 < 2 ^ e := Nat.pow_pos (by decide)
  have hhigh : (4 * m + 2) * 2 ^ e = 4 * (m * 2 ^ e) + 2 * 2 ^ e := by rw [Nat.add_mul, Nat.mul_assoc]
  have hlow : (4 * m - below m) * 2 ^ e = 4 * (m * 2 ^ e) - below m * 2 ^ e := by rw [Nat.sub_mul, Nat.mul_assoc]
  have hsmall : below m * 2 ^ e < 4 * (m * 2 ^ e) := by
    have hle : 1 * 2 ^ e ≤ m * 2 ^ e := Nat.mul_le_mul_right _ (by omega)
    rcases below_cases m with ⟨-, hbelow⟩ | ⟨-, hbelow⟩ <;> rw [hbelow] <;> omega
  rw [hhigh, hlow]
  constructor
  · rintro ⟨low, high, ends⟩
    split
    · exact ⟨by omega, high⟩
    · rename_i hodd
      have hends := ends (by simpa using hodd)
      exact ⟨by omega, by omega⟩
  · split
    · rename_i heven
      have heven : m % 2 = 0 := by simpa using heven
      rintro ⟨low, high⟩
      exact ⟨by omega, high, by omega⟩
    · rintro ⟨low, high⟩
      exact ⟨by omega, by omega, fun _ => ⟨by omega, by omega⟩⟩

/-- The test of the search, on its own scale. -/
theorem decide_inside (hm : 2 ^ 52 ≤ m) (hq : 0 < q) (hscale : 4 * p = q * 2 ^ e) (x : Nat) :
    (if (m % 2 == 0) = true then decide ((4 * m - below m) * p ≤ x * q) && decide (x * q ≤ (4 * m + 2) * p)
      else decide ((4 * m - below m) * p < x * q) && decide (x * q < (4 * m + 2) * p)) = decide (Near m e x) := by
  have hlow := scale_iff (a := 4 * m - below m) (x := x) hq hscale
  have hhigh := scale_iff (a := 4 * m + 2) (x := x) hq hscale
  have hnear := near_iff_ends (e := e) hm (j := x)
  split
  · rename_i heven
    rw [← Bool.decide_and, decide_eq_decide, hnear, if_pos heven, hlow.1, hhigh.2]
  · rename_i hodd
    rw [← Bool.decide_and, decide_eq_decide, hnear, if_neg hodd, ← Nat.not_le, ← Nat.not_le, hlow.2, hhigh.1,
      Nat.not_le, Nat.not_le]

end Scale

/-! ### Grids -/

section Grid

variable {m e k j : Nat} {x : Scaled}

theorem of_large (he : 1 ≤ e) : ∃ p q, 0 < q ∧ 4 * p = q * 2 ^ e ∧
    Interval.of m e = ⟨4 * m - below m, 4 * m, 4 * m + 2, m % 2 == 0, p, q⟩ := by
  obtain ⟨p, q, hdown, hq, hscale⟩ := powTwo_down he
  refine ⟨p, q, hq, hscale, ?_⟩
  have hexponent : Binary64.minExponent < (e : Int) := by
    rw [Binary64.minExponent]
    omega
  unfold Interval.of below
  simp only [hdown, hexponent, decide_true, Bool.and_true, decide_eq_true_eq, Nat.pow_eq]

/-- **What the grid of the multiples of `10 ^ k` holds of the interval** around a great double: the two multiples next
to the double are tried. -/
theorem onGrid?_eq (he : 1 ≤ e) (hm : 2 ^ 52 ≤ m) (k : Nat) : (Interval.of m e).onGrid? .greater k =
    if Near m e (m * 2 ^ e / 10 ^ k * 10 ^ k) ∧ m * 2 ^ e / 10 ^ k ≠ 0 then
      if Near m e ((m * 2 ^ e / 10 ^ k + 1) * 10 ^ k) ∧ ¬ 2 * (m * 2 ^ e % 10 ^ k) < 10 ^ k then
        some ⟨m * 2 ^ e / 10 ^ k + 1, k⟩
      else some ⟨m * 2 ^ e / 10 ^ k, k⟩
    else if Near m e ((m * 2 ^ e / 10 ^ k + 1) * 10 ^ k) then some ⟨m * 2 ^ e / 10 ^ k + 1, k⟩
    else none := by
  obtain ⟨p, q, hq, hscale, hinterval⟩ := of_large (m := m) he
  have hvalue : 4 * m * p = m * 2 ^ e * q := by
    rw [Nat.mul_right_comm, hscale, Nat.mul_comm (q * 2 ^ e), Nat.mul_right_comm, ← Nat.mul_assoc]
  have hfloor : 4 * m * p / (10 ^ k * q) = m * 2 ^ e / 10 ^ k := by
    rw [hvalue, Nat.mul_div_mul_right _ _ hq]
  have hpast : 2 * (4 * m * p % (10 ^ k * q)) < 10 ^ k * q ↔ 2 * (m * 2 ^ e % 10 ^ k) < 10 ^ k := by
    rw [hvalue, Nat.mul_mod_mul_right, ← Nat.mul_assoc]
    exact Nat.mul_lt_mul_right hq
  have hinside (c : Nat) := decide_inside (e := e) hm hq hscale (c * 10 ^ k)
  simp only [Nat.mul_assoc _ (10 ^ k) q] at hinside
  have hkept : (decide (Near m e (m * 2 ^ e / 10 ^ k * 10 ^ k)) && m * 2 ^ e / 10 ^ k != 0) =
      decide (Near m e (m * 2 ^ e / 10 ^ k * 10 ^ k) ∧ m * 2 ^ e / 10 ^ k ≠ 0) := by
    exact Bool.eq_iff_iff.2 (by simp)
  unfold Interval.onGrid?
  rw [hinterval]
  simp only [Int.not_lt.2 (Int.natCast_nonneg k), if_false, Int.natAbs_natCast, Nat.pow_eq, Nat.mul_one, hfloor,
    hinside, hkept, hpast, Tie.takesLower, Bool.and_false, Bool.or_false, decide_eq_true_eq]
  by_cases hfirst : Near m e (m * 2 ^ e / 10 ^ k * 10 ^ k) ∧ m * 2 ^ e / 10 ^ k ≠ 0
  · rw [decide_eq_true hfirst, if_pos hfirst]
    by_cases hsecond : Near m e ((m * 2 ^ e / 10 ^ k + 1) * 10 ^ k)
    · rw [decide_eq_true hsecond]
      by_cases hhalf : 2 * (m * 2 ^ e % 10 ^ k) < 10 ^ k
      · simp [hhalf]
      · simp [hhalf, hsecond]
    · simp [hsecond]
  · rw [decide_eq_false hfirst, if_neg hfirst]
    by_cases hsecond : Near m e ((m * 2 ^ e / 10 ^ k + 1) * 10 ^ k)
    · rw [decide_eq_true hsecond, if_pos hsecond]
    · rw [decide_eq_false hsecond, if_neg hsecond]

theorem near_between {a b c : Nat} (ha : Near m e a) (hb : Near m e b) (hac : a ≤ c) (hcb : c ≤ b) : Near m e c := by
  have hlow := ha.low
  have hhigh := hb.high
  refine ⟨by omega, by omega, fun hodd => ?_⟩
  have hends := ha.ends hodd
  have hends' := hb.ends hodd
  omega

theorem below_mul_pos (m e : Nat) : 0 < below m * 2 ^ e := by
  have hpow : 0 < 2 ^ e := Nat.pow_pos (by decide)
  rcases below_cases m with ⟨-, h⟩ | ⟨-, h⟩ <;> rw [h] <;> omega

theorem near_self (m e : Nat) : Near m e (m * 2 ^ e) := by
  have hpow : 0 < 2 ^ e := Nat.pow_pos (by decide)
  have hbelow := below_mul_pos m e
  exact ⟨by omega, by omega, fun _ => by omega⟩

/-- A number that is not near is at least half the way to the next double away, on either side. -/
theorem far_of_not_near (h : ¬ Near m e j) : (j ≤ m * 2 ^ e → 4 * j + below m * 2 ^ e ≤ 4 * (m * 2 ^ e)) ∧
    (m * 2 ^ e ≤ j → 4 * (m * 2 ^ e) + 2 * 2 ^ e ≤ 4 * j) := by
  have hpow : 0 < 2 ^ e := Nat.pow_pos (by decide)
  have hbelow := below_mul_pos m e
  constructor
  · intro hj
    refine Nat.le_of_not_lt fun hlt => h ⟨?_, ?_, fun _ => ?_⟩ <;> omega
  · intro hj
    refine Nat.le_of_not_lt fun hlt => h ⟨?_, ?_, fun _ => ?_⟩ <;> omega

theorem near_pos (hm : 2 ^ 52 ≤ m) (h : Near m e j) : 0 < j := by
  have hpow : 0 < 2 ^ e := Nat.pow_pos (by decide)
  have hle : 2 ^ 52 * 2 ^ e ≤ m * 2 ^ e := Nat.mul_le_mul_right _ hm
  have hlow := h.low
  rcases below_cases m with ⟨-, hbelow⟩ | ⟨-, hbelow⟩ <;> rw [hbelow] at hlow <;> omega

theorem multiple_cases {step : Nat} (v : Nat) (hj : step ∣ j) :
    j ≤ v / step * step ∨ (v / step + 1) * step ≤ j := by
  obtain ⟨c, rfl⟩ := hj
  rw [Nat.mul_comm step c]
  by_cases hc : c ≤ v / step
  · exact .inl (Nat.mul_le_mul_right _ hc)
  · exact .inr (Nat.mul_le_mul_right _ (by omega))

theorem onGrid?_none (he : 1 ≤ e) (hm : 2 ^ 52 ≤ m) (h : (Interval.of m e).onGrid? .greater k = none)
    (hj : 10 ^ k ∣ j) : ¬ Near m e j := by
  intro hnear
  have hstep : 0 < 10 ^ k := Nat.pow_pos (by decide)
  have hfloor : m * 2 ^ e / 10 ^ k * 10 ^ k ≤ m * 2 ^ e := Nat.div_mul_le_self _ _
  have hceil : m * 2 ^ e ≤ (m * 2 ^ e / 10 ^ k + 1) * 10 ^ k := by
    rw [Nat.succ_mul]
    exact Nat.le_of_lt (Nat.lt_div_mul_add hstep)
  rw [onGrid?_eq he hm] at h
  split at h
  · split at h <;> cases h
  · rename_i hfirst
    split at h
    · cases h
    · rename_i hsecond
      rcases multiple_cases (m * 2 ^ e) hj with hle | hge
      · refine hfirst ⟨near_between hnear (near_self m e) hle hfloor, fun hzero => ?_⟩
        rw [hzero, Nat.zero_mul] at hle
        exact absurd (near_pos hm hnear) (by omega)
      · exact hsecond (near_between (near_self m e) hnear hceil hge)

theorem onGrid?_some (he : 1 ≤ e) (hm : 2 ^ 52 ≤ m) (h : (Interval.of m e).onGrid? .greater k = some x) :
    ∃ c, x = ⟨c, k⟩ ∧ 0 < c ∧ Near m e (c * 10 ^ k) ∧
      ∀ j, 10 ^ k ∣ j → Near m e j → Closer (m * 2 ^ e) (c * 10 ^ k) j := by
  have hstep : 0 < 10 ^ k := Nat.pow_pos (by decide)
  have hsplit : m * 2 ^ e / 10 ^ k * 10 ^ k + m * 2 ^ e % 10 ^ k = m * 2 ^ e := Nat.div_add_mod' _ _
  have hrest : m * 2 ^ e % 10 ^ k < 10 ^ k := Nat.mod_lt _ hstep
  have hnext : (m * 2 ^ e / 10 ^ k + 1) * 10 ^ k = m * 2 ^ e / 10 ^ k * 10 ^ k + 10 ^ k := Nat.succ_mul _ _
  rw [onGrid?_eq he hm] at h
  split at h
  · rename_i hfirst
    split at h
    · rename_i hsecond
      cases h
      refine ⟨_, rfl, Nat.succ_pos _, hsecond.1, fun j hj _ => ?_⟩
      unfold Closer
      rcases multiple_cases (m * 2 ^ e) hj with hle | hge <;> omega
    · rename_i hsecond
      cases h
      refine ⟨_, rfl, Nat.pos_of_ne_zero hfirst.2, hfirst.1, fun j hj hnear => ?_⟩
      unfold Closer
      rcases multiple_cases (m * 2 ^ e) hj with hle | hge
      · omega
      · -- the multiple above the double is near, so the one below is less than half a step away
        have habove : Near m e ((m * 2 ^ e / 10 ^ k + 1) * 10 ^ k) :=
          near_between (near_self m e) hnear (by omega) hge
        have hhalf : 2 * (m * 2 ^ e % 10 ^ k) < 10 ^ k := Decidable.not_not.1 fun hnot => hsecond ⟨habove, hnot⟩
        omega
  · rename_i hfirst
    split at h
    · rename_i hsecond
      cases h
      refine ⟨_, rfl, Nat.succ_pos _, hsecond, fun j hj hnear => ?_⟩
      unfold Closer
      rcases multiple_cases (m * 2 ^ e) hj with hle | hge
      · refine absurd ⟨near_between hnear (near_self m e) hle (by omega), fun hzero => ?_⟩ hfirst
        rw [hzero, Nat.zero_mul] at hle
        exact absurd (near_pos hm hnear) (by omega)
      · omega
    · cases h

/-- A grid that holds nothing of the interval has wider steps than it. -/
theorem wide_of_onGrid?_none (he : 1 ≤ e) (hm : 2 ^ 52 ≤ m)
    (h : (Interval.of m e).onGrid? .greater k = none) : (2 + below m) * 2 ^ e ≤ 4 * 10 ^ k := by
  have hstep : 0 < 10 ^ k := Nat.pow_pos (by decide)
  have hfloor : m * 2 ^ e / 10 ^ k * 10 ^ k ≤ m * 2 ^ e := Nat.div_mul_le_self _ _
  have hceil : m * 2 ^ e < m * 2 ^ e / 10 ^ k * 10 ^ k + 10 ^ k := Nat.lt_div_mul_add hstep
  have hnext : (m * 2 ^ e / 10 ^ k + 1) * 10 ^ k = m * 2 ^ e / 10 ^ k * 10 ^ k + 10 ^ k := Nat.succ_mul _ _
  have hwidth : (2 + below m) * 2 ^ e = 2 * 2 ^ e + below m * 2 ^ e := Nat.add_mul _ _ _
  have hdown := (far_of_not_near (onGrid?_none he hm h (Nat.dvd_mul_left _ (m * 2 ^ e / 10 ^ k)))).1 hfloor
  have hup := (far_of_not_near (onGrid?_none he hm h (Nat.dvd_mul_left _ (m * 2 ^ e / 10 ^ k + 1)))).2 (by omega)
  omega

end Grid

/-! ### The search -/

section Search

variable {i : Interval} {tie : Tie} {m e k top fuel n r : Nat}

/-- **The search ends on the widest grid that holds anything of the interval**, if it is tried. -/
theorem search_first (hk : k ≤ top) (hfuel : top < k + fuel) (hsome : i.onGrid? tie k ≠ none) :
    ∃ (k' : Nat) (x : Scaled), k' ≤ top ∧ i.onGrid? tie k' = some x ∧ i.search tie top fuel = some x ∧
      ∀ j : Nat, k' < j → j ≤ top → i.onGrid? tie j = none := by
  induction fuel generalizing top with
  | zero => omega
  | succ fuel ih =>
    cases hgrid : i.onGrid? tie top with
    | some x => exact ⟨top, x, Nat.le_refl _, hgrid, by rw [Interval.search, hgrid]; rfl, fun j hj hj' => by omega⟩
    | none =>
      have hne : k ≠ top := by
        rintro rfl
        exact hsome hgrid
      obtain ⟨lower, rfl⟩ : ∃ lower, top = lower + 1 := ⟨top - 1, by omega⟩
      have hlower : k ≤ lower := by omega
      have hfuel' : lower < k + fuel := by omega
      obtain ⟨k', x, hk', hx, hsearch, hwider⟩ := ih hlower hfuel'
      refine ⟨k', x, by omega, hx, ?_, fun j hj hj' => ?_⟩
      · rw [Interval.search, hgrid, show ((lower + 1 : Nat) : Int) - 1 = (lower : Nat) by omega, hsearch]
        rfl
      · by_cases htop : j = lower + 1
        · rw [htop]
          exact hgrid
        · exact hwider j hj (by omega)

/-- Seventeen digits are enough to meet the interval. -/
theorem exists_onGrid (he : 1 ≤ e) (hm : 2 ^ 52 ≤ m) (hm' : m < 2 ^ 53) (htop : 10 ^ top ≤ m * 2 ^ e) :
    ∃ k : Nat, k ≤ top ∧ top < k + 17 ∧ (Interval.of m e).onGrid? .greater k ≠ none := by
  by_cases hfew : top < 17
  · refine ⟨0, Nat.zero_le _, by omega, fun hnone => ?_⟩
    exact onGrid?_none he hm hnone (by simp) (near_self m e)
  · obtain ⟨k, rfl⟩ : ∃ k, top = k + 16 := ⟨top - 16, by omega⟩
    refine ⟨k, by omega, by omega, fun hnone => ?_⟩
    have hstep : 0 < 10 ^ k := Nat.pow_pos (by decide)
    have hwide := wide_of_onGrid?_none he hm hnone
    have hless : m * 2 ^ e < 2 ^ 53 * 2 ^ e := Nat.mul_lt_mul_of_pos_right hm' (Nat.pow_pos (by decide))
    rw [Nat.pow_add] at htop
    rcases below_cases m with ⟨rfl, hbelow⟩ | ⟨-, hbelow⟩
    · rw [hbelow] at hwide
      omega
    · rw [hbelow] at hwide
      omega

theorem pointPosition_nat (hpos : 0 < n) : ∃ top : Nat, pointPosition n 1 - 1 = top ∧ 10 ^ top ≤ n ∧
    n < 10 ^ (top + 1) := by
  have hlength := Nat.length_toDigits_pos (b := 10) (n := n)
  refine ⟨(Nat.toDigits 10 n).length - 1, ?_, ?_, ?_⟩
  · rw [pointPosition, if_pos (Nat.one_le_iff_ne_zero.2 (Nat.ne_of_gt hpos)), Nat.div_one]
    omega
  · refine Nat.le_of_not_lt fun hlt => ?_
    by_cases hone : (Nat.toDigits 10 n).length = 1
    · rw [hone] at hlt
      simp at hlt
      omega
    · have hle := (Nat.length_toDigits_le_iff (b := 10) (by decide) (by omega)).2 hlt
      omega
  · rw [Nat.sub_add_cancel hlength]
    exact (Nat.length_toDigits_le_iff (by decide) hlength).1 (Nat.le_refl _)

end Search

/-! ### The roundest number -/

section Roundest

variable {m e k top n j c : Nat}

/-- Two near numbers are less than the first digit of the double apart, so that two multiples of its place are equal. -/
theorem eq_of_near {a b : Nat} (hm : 2 ^ 52 ≤ m) (htop : m * 2 ^ e < 10 ^ (top + 1)) (ha : Near m e a)
    (hb : Near m e b) (hda : 10 ^ top ∣ a) (hdb : 10 ^ top ∣ b) : a = b := by
  have hpow : 0 < 2 ^ e := Nat.pow_pos (by decide)
  have hfront : 2 ^ 52 * 2 ^ e ≤ m * 2 ^ e := Nat.mul_le_mul_right _ hm
  have hten : 10 ^ (top + 1) = 10 * 10 ^ top := by rw [Nat.pow_succ, Nat.mul_comm]
  have apart {a b : Nat} (ha : Near m e a) (hb : Near m e b) (hda : 10 ^ top ∣ a) (hdb : 10 ^ top ∣ b) : b ≤ a := by
    refine Nat.le_of_not_lt fun hlt => ?_
    have hstep : 10 ^ top ≤ b - a := Nat.le_of_dvd (by omega) (Nat.dvd_sub hdb hda)
    have hlow := ha.low
    have hhigh := hb.high
    rcases below_cases m with ⟨-, hbelow⟩ | ⟨-, hbelow⟩ <;> rw [hbelow] at hlow <;> omega
  exact Nat.le_antisymm (apart hb ha hdb hda) (apart ha hb hda hdb)

/-- A near number with more zeros than the double has places is a power of ten that the double is just below. The grid
of the first place of the double then holds it. -/
theorem onGrid?_of_beyond (he : 1 ≤ e) (hm : 2 ^ 52 ≤ m) (htop : m * 2 ^ e < 10 ^ (top + 1)) (hj : Near m e j)
    (hdvd : 10 ^ (top + 1) ∣ j) : (Interval.of m e).onGrid? .greater top ≠ none := by
  intro hnone
  have hle : 10 ^ (top + 1) ≤ j := Nat.le_of_dvd (near_pos hm hj) hdvd
  have hnear : Near m e (10 ^ (top + 1)) := near_between (near_self m e) hj (Nat.le_of_lt htop) hle
  exact onGrid?_none he hm hnone (Nat.pow_dvd_pow 10 (Nat.le_succ top)) hnear

/-- **The shortest decimal of a great double** is near it, has as many zeros as any number that is near, and is the
nearest of those that have as many. -/
theorem shortest_roundest (he : 1 ≤ e) (hm : 2 ^ 52 ≤ m) (hm' : m < 2 ^ 53) : ∃ c k : Nat,
    shortest .greater m e = ⟨c, k⟩ ∧ 0 < c ∧ Near m e (c * 10 ^ k) ∧
      (∀ k' j, Near m e j → 10 ^ k' ∣ j → 10 ^ k' ∣ c * 10 ^ k) ∧
      ∀ j, Near m e j → 10 ^ k ∣ j → Closer (m * 2 ^ e) (c * 10 ^ k) j := by
  have hpos : 0 < m * 2 ^ e := Nat.mul_pos (by omega) (Nat.pow_pos (by decide))
  obtain ⟨top, hpoint, hlow, hhigh⟩ := pointPosition_nat hpos
  obtain ⟨k₀, hk₀, hfuel, hsome⟩ := exists_onGrid he hm hm' hlow
  obtain ⟨k, x, hk, hx, hsearch, hwider⟩ := search_first hk₀ hfuel hsome
  obtain ⟨c, rfl, hc, hnear, hcloser⟩ := onGrid?_some he hm hx
  have hshortest : shortest .greater m e = ⟨c, k⟩ := by
    have hne : m ≠ 0 := by omega
    simp only [shortest, powTwo_natCast, hne, if_false, hpoint, hsearch, Option.getD_some]
  refine ⟨c, k, hshortest, hc, hnear, fun k' j hj hdvd => ?_, fun j hj hdvd => hcloser j hdvd hj⟩
  by_cases hle : k' ≤ k
  · exact Nat.dvd_mul_left_of_dvd (Nat.pow_dvd_pow 10 hle) c
  by_cases htop : k' ≤ top
  · -- the grid of the multiples of `10 ^ k'` was tried before
    exact absurd hj (onGrid?_none he hm (hwider k' (by omega) htop) hdvd)
  · have hbeyond : 10 ^ (top + 1) ∣ j := Nat.dvd_trans (Nat.pow_dvd_pow 10 (by omega)) hdvd
    obtain rfl : k = top := by
      refine Nat.le_antisymm hk (Nat.le_of_not_lt fun hlt => ?_)
      exact onGrid?_of_beyond he hm hhigh hj hbeyond (hwider top hlt (Nat.le_refl _))
    have hplace : 10 ^ k ∣ j := Nat.dvd_trans (Nat.pow_dvd_pow 10 (Nat.le_succ k)) hbeyond
    rw [eq_of_near hm hhigh hnear hj (Nat.dvd_mul_left _ c) hplace]
    exact hdvd

/-- How a double other than zero is written, by the decimal that it is written from. -/
theorem magnitude_plain {d : Nat} (hm : m ≠ 0) (hd : 0 < d) {x : Int} (h : shortest .greater m x = ⟨d, k⟩) :
    plain.magnitude m x = Nat.toDigits 10 (d * 10 ^ k) := by
  have hplain : plain.tie = .greater := rfl
  have hpositional (p : Int) : plain.positional p = true := rfl
  unfold Form.magnitude
  simp only [if_neg hm, hplain, h, hpositional, if_true]
  exact (written_scaled hd k).2

theorem exists_roundest_large (h : 2 ^ 53 ≤ n) (h' : n < 2 ^ 64) :
    ∃ r, Roundest n r ∧ Written (Binary64.ofNat n) r := by
  obtain ⟨m, e, he, he', hm, hm', hdouble⟩ := exists_large h h'
  obtain ⟨c, k, hshortest, hc, hnear, hzeros, hcloser⟩ := shortest_roundest he hm hm'
  have hsame (j : Nat) : Binary64.ofNat j = ⟨false, m, e⟩ ↔ Near m e j := ofNat_eq_iff he he' hm hm'
  have hvalue : magnitude ⟨false, m, e⟩ = m * 2 ^ e := by
    rw [magnitude]
    simp only [powTwo_natCast, Nat.div_one]
  refine ⟨c * 10 ^ k, ⟨?_, ?_, ?_⟩, ?_⟩
  · rw [hdouble]
    exact (hsame _).2 hnear
  · intro k' j hj
    rw [hdouble] at hj
    exact hzeros k' j ((hsame j).1 hj)
  · intro j hj hdvd
    rw [hdouble] at hj ⊢
    rw [hvalue]
    exact hcloser j ((hsame j).1 hj) (hdvd k (Nat.dvd_mul_left _ c))
  · rw [hdouble]
    have hne : m ≠ 0 := by omega
    have hwhole : Binary64.isWhole ⟨false, m, e⟩ = true := by
      simp only [Binary64.isWhole, powTwo_natCast, Nat.mod_one, beq_self_eq_true]
    exact ⟨rfl, hwhole, magnitude_plain hne hc hshortest⟩

/-! ### Small numbers -/

theorem magnitude_small (h : n < 2 ^ 53) : magnitude (Binary64.ofNat n) = n := by
  rcases Nat.eq_zero_or_pos n with rfl | hpos
  · decide +kernel
  · rw [Binary64.ofNat, ofRatio_small hpos h, Option.getD_some, magnitude]
    simp only [powTwo_neg, Nat.mul_one]
    exact Nat.mul_div_cancel _ (Nat.pow_pos (by decide))

/-- No other number has the double of a small one. -/
theorem eq_of_small (hpos : 0 < n) (h : n < 2 ^ 53) (hj : Binary64.ofNat j = Binary64.ofNat n) : j = n := by
  by_cases hsmall : j < 2 ^ 53
  · rw [← magnitude_small hsmall, hj, magnitude_small h]
  · -- a great number has a greater exponent, if it has a double at all
    have hsome : Binary64.ofNat j ≠ Binary64.zero := by
      intro hzero
      have hvalue : magnitude Binary64.zero = n := by rw [← hzero, hj, magnitude_small h]
      have hnone : magnitude Binary64.zero = 0 := by simp [magnitude, Binary64.zero]
      omega
    have hgreat : 1 ≤ (Binary64.ofNat j).exponent := Binary64.exponent_of_large (Nat.not_lt.1 hsmall) hsome
    have hless : (Binary64.ofNat n).exponent ≤ 0 := Binary64.exponent_of_small h
    rw [hj] at hgreat
    omega

theorem roundest_small (h : n < 2 ^ 53) : Roundest n n := by
  rcases Nat.eq_zero_or_pos n with rfl | hpos
  · refine ⟨rfl, fun k _ _ _ => Nat.dvd_zero _, fun j _ hdvd => ?_⟩
    have hzero : j = 0 := by
      refine Nat.eq_zero_of_not_pos fun hj => ?_
      have hle : 10 ^ j ≤ j := Nat.le_of_dvd hj (hdvd j (Nat.dvd_zero _))
      exact absurd (Nat.lt_pow_self (n := j) (show 1 < 10 by decide)) (Nat.not_lt.2 hle)
    rw [magnitude_small h, hzero]
    exact .inr ⟨rfl, Nat.le_refl 0⟩
  · refine ⟨rfl, fun k j hj hdvd => eq_of_small hpos h hj ▸ hdvd, fun j hj _ => ?_⟩
    rw [eq_of_small hpos h hj]
    exact .inr ⟨rfl, Nat.le_refl n⟩

theorem written_of_small (h : n < 2 ^ 53) : Written (Binary64.ofNat n) n := by
  rcases Nat.eq_zero_or_pos n with rfl | hpos
  · exact ⟨by decide +kernel, by decide +kernel, by decide +kernel⟩
  · obtain ⟨j, hj, hshortest⟩ := shortest_small hpos h .greater
    have hexact : n / 10 ^ j * 10 ^ j = n := Nat.div_mul_cancel hj
    have hd : 0 < n / 10 ^ j := Nat.div_pos (Nat.le_of_dvd hpos hj) (Nat.pow_pos (by decide))
    have hne : n * 2 ^ (52 - n.log2) ≠ 0 := Nat.ne_of_gt (Nat.mul_pos hpos (Nat.pow_pos (by decide)))
    have hdigits := magnitude_plain hne hd hshortest
    rw [hexact] at hdigits
    rw [Binary64.ofNat, ofRatio_small hpos h, Option.getD_some]
    refine ⟨rfl, ?_, hdigits⟩
    simp only [Binary64.isWhole, powTwo_neg, Nat.mul_mod_left, beq_self_eq_true]

/-- **How the double of a number of 64 bits is written**: by the digits of the roundest number. -/
theorem exists_roundest (h : n < 2 ^ 64) : ∃ r, Roundest n r ∧ Written (Binary64.ofNat n) r := by
  by_cases hsmall : n < 2 ^ 53
  · exact ⟨n, roundest_small hsmall, written_of_small hsmall⟩
  · exact exists_roundest_large (Nat.not_lt.1 hsmall) h

end Roundest

end Typeforge.Decimal
