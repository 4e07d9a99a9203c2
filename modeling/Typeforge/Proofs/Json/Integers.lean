import Mathlib.Algebra.Group.Int.Defs
import Typeforge.Json.Reader
import Typeforge.Proofs.Code.ObjectLiteral

/-!
# Reading integers

An integer that fits 64 bits, written in decimal, is read as itself (`parse?_toString`). It is read wherever it stands,
up to a character that would go on with the numeral (`value?_toString`). The one other text of an integer is `-0`, which
is read as a double (`SignedDigits.parse?_text`).
-/

namespace Typeforge.Json

open Code (head?_toDigits)
open Decimal (isDigits_toDigits)

/-- The integers that fit 64 bits, with a sign or without. -/
def Fits (b : Int) : Prop := -(2 : Int) ^ 63 ≤ b ∧ b < (2 : Int) ^ 64

instance (b : Int) : Decidable (Fits b) := inferInstanceAs (Decidable (_ ∧ _))

namespace Reader

/-- What does not go on with a numeral. -/
def EndsNumeral (rest : Rest) : Prop := ∀ c ∈ rest.head?, c.isDigit = false ∧ c ≠ '.' ∧ c ≠ 'e' ∧ c ≠ 'E'

section Integers

variable {n : Nat} {b : Int} {rest : Rest}

theorem toList_toString_int (b : Int) :
    (toString b).toList = (if b < 0 then ['-'] else []) ++ Nat.toDigits 10 b.natAbs := by
  cases b with
  | ofNat n =>
    have hsign : ¬ (Int.ofNat n) < 0 := Int.not_lt.2 (Int.natCast_nonneg n)
    rw [if_neg hsign]
    simp [toString, Int.repr, Nat.toList_repr]
  | negSucc n =>
    rw [if_pos (Int.negSucc_lt_zero n)]
    simp [toString, Int.repr, Nat.toList_repr]

theorem isDigit_of_mem_toDigits {c : Char} (hc : c ∈ Nat.toDigits 10 n) : c.isDigit = true :=
  Nat.isDigit_of_mem_toDigits (by decide) (by decide) hc

theorem digits_toDigits (hrest : EndsNumeral rest) : ∃ ds, digits (Nat.toDigits 10 n ++ rest) = (ds, rest) ∧
    ds = (Nat.toDigits 10 n).map (fun c => c.toNat - '0'.toNat) ∧ Numeral.ofDigits ds = n := by
  have hall : ∀ c ∈ Nat.toDigits 10 n, c.isDigit = true := fun c hc => isDigit_of_mem_toDigits hc
  have htake : (Nat.toDigits 10 n ++ rest).takeWhile Char.isDigit = Nat.toDigits 10 n := by
    rw [List.takeWhile_append_of_pos hall]
    cases rest with
    | nil => simp
    | cons c cs => simp [(hrest c rfl).1]
  have hdrop : (Nat.toDigits 10 n ++ rest).dropWhile Char.isDigit = rest := by
    rw [List.dropWhile_append_of_pos hall]
    cases rest with
    | nil => simp
    | cons c cs => simp [(hrest c rfl).1]
  refine ⟨_, by rw [digits, htake, hdrop], rfl, ?_⟩
  calc Numeral.ofDigits ((Nat.toDigits 10 n).map fun c => c.toNat - '0'.toNat)
      = Nat.ofDigitChars 10 (Nat.toDigits 10 n) 0 := by
        rw [Numeral.ofDigits, List.foldl_map, Nat.ofDigitChars_eq_foldl]
        simp only [Nat.mul_comm 10]
    _ = n := Nat.ofDigitChars_ten_toDigits

theorem wholeDigits?_toDigits (hrest : EndsNumeral rest) : ∃ ds,
    wholeDigits? (Nat.toDigits 10 n ++ rest) = some (ds, rest) ∧ Numeral.ofDigits ds = n := by
  obtain ⟨ds, hdigits, hds, hvalue⟩ := digits_toDigits (n := n) hrest
  refine ⟨ds, ?_, hvalue⟩
  have hne : ds ≠ [] := by
    rw [hds]
    simp
  have hzero (d : Nat) (more : List Nat) (hcons : ds = 0 :: d :: more) : False := by
    cases htext : Nat.toDigits 10 n with
    | nil => exact Nat.toDigits_ne_nil htext
    | cons c cs =>
      rw [htext, List.map_cons] at hds
      have hc : c.toNat - '0'.toNat = 0 := (List.cons.inj (hds.symm.trans hcons)).1
      have hdigit : c.isDigit = true := isDigit_of_mem_toDigits (htext ▸ List.mem_cons_self)
      have hc' : c = '0' := by
        simp only [Char.isDigit, Bool.and_eq_true, decide_eq_true_eq, UInt32.le_iff_toNat_le] at hdigit
        have hcode : c.toNat = '0'.toNat := by
          have hlow : '0'.toNat ≤ c.toNat := hdigit.1
          omega
        exact Char.toNat_inj.1 hcode
      rcases Nat.eq_zero_or_pos n with rfl | hpos
      · rw [Nat.toDigits_zero] at htext
        rw [← (List.cons.inj htext).2] at hds
        rw [hds] at hcons
        exact absurd (List.cons.inj hcons).2 (by simp)
      · exact head?_toDigits hpos (by rw [htext, hc']; rfl)
  rw [wholeDigits?, hdigits]
  rcases ds with _ | ⟨_ | d, _ | ⟨d', more⟩⟩
  · exact absurd rfl hne
  · rfl
  · exact (hzero d' more rfl).elim
  · rfl
  · rfl

theorem numeral?_toString (b : Int) (hrest : EndsNumeral rest) : ∃ ds,
    numeral? ((toString b).toList ++ rest) = some (⟨decide (b < 0), ds, none, none⟩, rest) ∧
      Numeral.ofDigits ds = b.natAbs := by
  obtain ⟨ds, hds, hvalue⟩ := wholeDigits?_toDigits (n := b.natAbs) hrest
  refine ⟨ds, ?_, hvalue⟩
  have hfraction : fractionDigits? rest = some (none, rest) := by
    cases rest with
    | nil => rfl
    | cons c cs =>
      have hc := (hrest c rfl).2.1
      unfold fractionDigits?
      split
      · rename_i heq
        exact absurd (List.cons.inj heq).1 hc
      · rfl
  have hexponent : exponent? rest = some (none, rest) := by
    cases rest with
    | nil => rfl
    | cons c cs =>
      obtain ⟨-, -, he, hE⟩ := hrest c rfl
      simp [exponent?, he, hE]
  rw [toList_toString_int]
  by_cases hb : b < 0
  · simp [numeral?, hb, hds, hfraction, hexponent]
  · cases htext : Nat.toDigits 10 b.natAbs with
    | nil => exact absurd htext Nat.toDigits_ne_nil
    | cons c cs =>
      have hminus : c ≠ '-' := by
        rintro rfl
        exact absurd (isDigit_of_mem_toDigits (htext ▸ List.mem_cons_self)) (by decide)
      rw [htext, List.cons_append] at hds
      simp [numeral?, hb, hminus, hds, hfraction, hexponent]

theorem value?_of_digits (hb : Fits b) {ds : List Nat} (hds : Numeral.ofDigits ds = b.natAbs) :
    Numeral.value? ⟨decide (b < 0), ds, none, none⟩ = some (.whole b) := by
  unfold Fits at hb
  unfold Numeral.value?
  simp only [hds, Option.isNone_none, Bool.true_and]
  by_cases hneg : b < 0
  · have hfits : (decide (0 < b.natAbs) && decide (b.natAbs ≤ Nat.pow 2 63)) = true := by
      simp only [Nat.pow_eq, Bool.and_eq_true, decide_eq_true_eq]
      omega
    simp only [hneg, decide_true, if_true, hfits]
    congr 2
    omega
  · have hmost : Numeral.maxSignificand = 2 ^ 64 - 1 := rfl
    have hfits : decide (b.natAbs ≤ Numeral.maxSignificand) = true := decide_eq_true (by omega)
    simp only [hneg, decide_false, Bool.false_eq_true, if_false, hfits, if_true]
    congr 2
    omega

theorem exists_front (b : Int) (rest : Rest) : ∃ c cs, (toString b).toList ++ rest = c :: cs ∧
    (c = '-' || c.isDigit) = true := by
  rw [toList_toString_int]
  by_cases hneg : b < 0
  · exact ⟨'-', Nat.toDigits 10 b.natAbs ++ rest, by simp [hneg], rfl⟩
  · cases hdigits : Nat.toDigits 10 b.natAbs with
    | nil => exact absurd hdigits Nat.toDigits_ne_nil
    | cons c cs =>
      have hc : c.isDigit = true := isDigit_of_mem_toDigits (hdigits ▸ List.mem_cons_self)
      exact ⟨c, cs ++ rest, by simp [hneg], by simp [hc]⟩

/-- **An integer that fits 64 bits is read as itself.** -/
theorem value?_toString (hb : Fits b) (fuel : Nat) (hrest : EndsNumeral rest) :
    value? (fuel + 1) ((toString b).toList ++ rest) = some (.number (.whole b), rest) := by
  obtain ⟨ds, hnumeral, hds⟩ := numeral?_toString b hrest
  obtain ⟨c, cs, htext, hfront⟩ := exists_front b rest
  have hother (d : Char) (hd : (d = '-' || d.isDigit) = false) : c ≠ d := by
    rintro rfl
    rw [hd] at hfront
    cases hfront
  have hblank : skipBlank (c :: cs) = c :: cs := by
    have hspace := hother ' ' (by decide)
    have htab := hother '\t' (by decide)
    have hfeed := hother '\n' (by decide)
    have hreturn := hother '\r' (by decide)
    simp [skipBlank, hspace, htab, hfeed, hreturn]
  rw [htext] at hnumeral ⊢
  rw [value?, hblank]
  split
  · rename_i heq
    cases heq
  · rename_i heq
    exact absurd (List.cons.inj heq).1 (hother '"' (by decide))
  · rename_i heq
    exact absurd (List.cons.inj heq).1 (hother '[' (by decide))
  · rename_i heq
    exact absurd (List.cons.inj heq).1 (hother '\x7b' (by decide))
  · rename_i heq
    obtain ⟨rfl, rfl⟩ := List.cons.inj heq
    rw [if_pos hfront, hnumeral]
    simp [value?_of_digits hb hds, leafOf]

end Integers

end Reader

theorem parse?_toString {b : Int} (hb : Fits b) : Raw.parse? (toString b) = some (.number (.whole b)) := by
  have hread : Reader.value? (2 * (toString b).toList.length + 2) ((toString b).toList ++ []) =
      some (.number (.whole b), []) := Reader.value?_toString hb _ (by simp [Reader.EndsNumeral])
  rw [List.append_nil] at hread
  simp only [Raw.parse?, hread]
  rfl

/-- An integer as it is written: decimal digits, and a minus before them or none. -/
structure SignedDigits where
  negative : Bool
  magnitude : Nat

namespace SignedDigits

def text (d : SignedDigits) : String := (if d.negative then "-" else "") ++ toString d.magnitude

def value (d : SignedDigits) : Int := if d.negative then -d.magnitude else d.magnitude

def toDouble (d : SignedDigits) : Binary64 :=
  if d.negative then (Binary64.ofNat d.magnitude).neg else Binary64.ofNat d.magnitude

def MinusZero (d : SignedDigits) : Prop := d.negative = true ∧ d.magnitude = 0

instance (d : SignedDigits) : Decidable d.MinusZero := inferInstanceAs (Decidable (_ ∧ _))

variable {d : SignedDigits}

theorem toList_text (d : SignedDigits) :
    d.text.toList = (if d.negative then ['-'] else []) ++ Nat.toDigits 10 d.magnitude := by
  unfold text
  cases d.negative <;> simp [toString, Nat.toList_repr]

theorem natAbs_value (d : SignedDigits) : d.value.natAbs = d.magnitude := by
  unfold value
  split <;> omega

theorem value_neg_iff (h : ¬ d.MinusZero) : d.value < 0 ↔ d.negative = true := by
  unfold value
  cases hnegative : d.negative with
  | true =>
    have hpos : d.magnitude ≠ 0 := fun hzero => h ⟨hnegative, hzero⟩
    simp only [if_true, iff_true]
    omega
  | false =>
    simp only [Bool.false_eq_true, if_false, iff_false]
    omega

/-- But for `-0` the digits are the text of their value. -/
theorem text_eq_toString (h : ¬ d.MinusZero) : d.text = toString d.value := by
  refine String.toList_injective ?_
  simp only [toList_text, Reader.toList_toString_int, natAbs_value, value_neg_iff h]

/-- Digits with one sign and one text are those of one number. -/
theorem magnitude_of_text {negative : Bool} {m r : Nat}
    (h : (⟨negative, r⟩ : SignedDigits).text = (⟨negative, m⟩ : SignedDigits).text) : r = m := by
  have hdigits : Nat.toDigits 10 r = Nat.toDigits 10 m := by
    have hlist := congrArg String.toList h
    rw [toList_text, toList_text] at hlist
    exact List.append_cancel_left hlist
  rw [← Nat.ofDigitChars_ten_toDigits (n := r), hdigits, Nat.ofDigitChars_ten_toDigits]

/-- A zero with a minus is a double. -/
theorem parse?_minusZero : Raw.parse? (⟨true, 0⟩ : SignedDigits).text =
    some (.number (.float ⟨true, 0, Binary64.minExponent⟩)) := by
  with_unfolding_all rfl

/-- **The number in the digits of an integer** that fits 64 bits has their double, and is the integer but for `-0`. -/
theorem parse?_text (h : Fits d.value) : ∃ num, Raw.parse? d.text = some (.number num) ∧ num.toDouble = d.toDouble ∧
    (¬ d.MinusZero → num = .whole d.value) := by
  by_cases hzero : d.MinusZero
  · refine ⟨.float ⟨true, 0, Binary64.minExponent⟩, ?_, ?_, fun hnot => (hnot hzero).elim⟩
    · obtain ⟨negative, magnitude⟩ := d
      obtain ⟨rfl, rfl⟩ : negative = true ∧ magnitude = 0 := hzero
      exact parse?_minusZero
    · rw [toDouble, if_pos hzero.1, hzero.2]
      decide +kernel
  · refine ⟨.whole d.value, ?_, ?_, fun _ => rfl⟩
    · rw [text_eq_toString hzero]
      exact parse?_toString h
    · simp only [Number.toDouble, toDouble, natAbs_value, value_neg_iff hzero]

end SignedDigits

end Typeforge.Json
