import Typeforge.Decimal.Binary64

/-!
# Shortest decimals

The decimal with the fewest digits among those that read back as a given double, and of these the
nearest to it; of two that are equally near, the one a `Tie` names. The reals that read back as `m · 2 ^ e`
form an interval around it, which holds its ends when `m` is even. For one digit, two digits and so on,
the two neighbours of the number on the grid of that many digits are tried: when the grid meets the
interval at all, one of the two lies in it.
-/

namespace Typeforge.Decimal

/-- The decimal `digits · 10 ^ exponent`. -/
structure Scaled where
  digits : Nat
  exponent : Int
deriving DecidableEq

/-- Which of two decimals is taken when they have as many digits and are equally near. -/
inductive Tie where
  /-- The greater one. -/
  | greater
  /-- The one whose last digit is even. -/
  | even

/-- Whether, of a number and its successor, the number itself is taken. -/
def Tie.takesLower : Tie → Nat → Bool
  | .greater, _ => false
  | .even, n => n % 2 == 0

/-- How many places a fraction below one moves before its first digit passes the point; `fuel` bounds
the search. -/
def leadingZeros (num den : Nat) : Nat → Nat
  | 0 => 0
  | fuel + 1 => if den ≤ num * 10 then 0 else leadingZeros (num * 10) den fuel + 1

/-- Where the point stands before the first digit: the least `k` with `num / den < 10 ^ k`. -/
def pointPosition (num den : Nat) : Int :=
  if den ≤ num then ((Nat.toDigits 10 (num / den)).length : Int)
  else -(leadingZeros num den 400 : Int)

/-- A number with the ends of the interval that reads back as it, on one scale. -/
structure Interval where
  low : Nat
  value : Nat
  high : Nat
  closed : Bool
  /-- What one stands for on this scale, as a ratio. -/
  unitNum : Nat
  unitDen : Nat

/-- The interval of `m · 2 ^ e`, in quarters of the distance to the next double. Below a power of two
the next double is only half as far. -/
def Interval.of (m : Nat) (e : Int) : Interval :=
  let (p, q) := Binary64.powTwo (e - 2)
  let below := if m = Nat.pow 2 52 && Binary64.minExponent < e then 1 else 2
  ⟨4 * m - below, 4 * m, 4 * m + 2, m % 2 == 0, p, q⟩

/-- The point of the grid with step `10 ^ exponent` to choose, if one of the two next to the number
lies in its interval. -/
def Interval.onGrid? (i : Interval) (tie : Tie) (exponent : Int) : Option Scaled :=
  let up := if exponent < 0 then Nat.pow 10 exponent.natAbs else 1
  let step := (if exponent < 0 then 1 else Nat.pow 10 exponent.natAbs) * i.unitDen
  let scaled (n : Nat) : Nat := n * i.unitNum * up
  let floor := scaled i.value / step
  let inside (c : Nat) : Bool :=
    if i.closed then scaled i.low ≤ c * step && c * step ≤ scaled i.high
    else scaled i.low < c * step && c * step < scaled i.high
  let past := 2 * (scaled i.value % step)
  let nearFloor := past < step || (past == step && tie.takesLower floor)
  match inside floor && floor != 0, inside (floor + 1) with
  | true, true => some ⟨if nearFloor then floor else floor + 1, exponent⟩
  | true, false => some ⟨floor, exponent⟩
  | false, true => some ⟨floor + 1, exponent⟩
  | false, false => none

/-- The first of the grids with step `10 ^ exponent`, `10 ^ (exponent - 1)`, … that meets the
interval. -/
def Interval.search (i : Interval) (tie : Tie) (exponent : Int) : Nat → Option Scaled
  | 0 => none
  | fuel + 1 => (i.onGrid? tie exponent).orElse fun _ => i.search tie (exponent - 1) fuel

/-- The shortest decimal of `m · 2 ^ e`. Seventeen digits tell any two doubles apart. -/
def shortest (tie : Tie) (m : Nat) (e : Int) : Scaled :=
  let (p, q) := Binary64.powTwo e
  if m = 0 then ⟨0, 0⟩
  else ((Interval.of m e).search tie (pointPosition (m * p) q - 1) 17).getD ⟨0, 0⟩

end Typeforge.Decimal
