import Typeforge.Json.Value

/-!
# Numbers as they are written

A numeral without a point and an exponent is a whole number when that fits 64 bits. Any other numeral is
a double, read in two steps: the leading digits that fit 64 bits are one whole number, rounded to a
double, and the power of ten that is left scales it in double arithmetic. Up to fifteen digits with a
small exponent this is the nearest double; beyond, the last bit may differ from it.
-/

namespace Typeforge.Json

/-- A number in decimal digits, most significant first. -/
structure Numeral where
  negative : Bool
  whole : List Nat
  /-- The digits after the point; `none` without a point. -/
  fraction : Option (List Nat)
  exponent : Option Int

namespace Numeral

def ofDigits (digits : List Nat) : Nat := digits.foldl (fun n d => n * 10 + d) 0

/-- The greatest number that 64 bits hold. -/
def maxSignificand : Nat := Nat.pow 2 64 - 1

/-- Appends digits to a significand as long as it fits 64 bits. The second result is the digits left. -/
def extend (significand : Nat) : List Nat → Nat × List Nat
  | [] => (significand, [])
  | d :: ds =>
    if significand * 10 + d ≤ maxSignificand then extend (significand * 10 + d) ds else (significand, d :: ds)

/-- The powers of ten that a double can scale by in one step. -/
def maxStep : Nat := 308

def powTen (k : Nat) : Binary64 := (Binary64.ofDecimal false 1 k).getD .zero

/-- Scales by a power of ten in double arithmetic, far down in steps; `none` beyond the greatest
double. -/
def scale (x : Binary64) (exponent : Int) : Option Binary64 :=
  if exponent.natAbs ≤ maxStep then
    if exponent < 0 then x.div (powTen exponent.natAbs) else x.mul (powTen exponent.natAbs)
  else if x.isZero then some x
  else if h : exponent < 0 then (x.div (powTen maxStep)).bind fun y => scale y (exponent + 308)
  else none
termination_by exponent.natAbs
decreasing_by simp [maxStep] at *; omega

/-- The double of a numeral; `none` beyond the greatest one. -/
def toDouble? (n : Numeral) : Option Binary64 :=
  let (significand, dropped) := extend 0 n.whole
  let fraction := n.fraction.getD []
  let (significand, unread) := extend significand fraction
  let power : Int := dropped.length - (fraction.length - unread.length : Nat) + n.exponent.getD 0
  (scale (Binary64.ofNat significand) power).map fun x => { x with negative := n.negative }

/-- The number that a numeral writes; `none` beyond the greatest double. -/
def value? (n : Numeral) : Option Number :=
  let whole := ofDigits n.whole
  let signed : Int := if n.negative then -whole else whole
  let fits := if n.negative then 0 < whole && whole ≤ Nat.pow 2 63 else whole ≤ maxSignificand
  if n.fraction.isNone && n.exponent.isNone && fits then some (.whole signed)
  else n.toDouble?.map .float

end Numeral

end Typeforge.Json
