/-!
# Finite doubles

The finite numbers of the 64-bit binary format as a sign, a mantissa and an exponent, with rounding
of an exact ratio to the nearest of them. A tie goes to the even mantissa. Results are in the format's
own shape: the mantissa is below `2 ^ 53`, and at least `2 ^ 52` unless the exponent is the least one.
-/

namespace Typeforge

/-- The number `± mantissa · 2 ^ exponent`. -/
structure Binary64 where
  negative : Bool
  mantissa : Nat
  exponent : Int
deriving DecidableEq

namespace Binary64

def minExponent : Int := -1074

def maxExponent : Int := 971

def zero : Binary64 := ⟨false, 0, minExponent⟩

instance : Inhabited Binary64 := ⟨zero⟩

def isZero (x : Binary64) : Bool := x.mantissa == 0

def neg (x : Binary64) : Binary64 := { x with negative := !x.negative }

/-- The same number: the two zeros are one. -/
def sameValue (x y : Binary64) : Bool :=
  (x.isZero && y.isZero) || decide (x = y)

/-- `2 ^ e` as a numerator and a denominator. -/
def powTwo (e : Int) : Nat × Nat :=
  if e < 0 then (1, Nat.pow 2 e.natAbs) else (Nat.pow 2 e.natAbs, 1)

/-- The quotient rounded to a whole number, a half going to the even neighbour. -/
def roundDiv (num den : Nat) : Nat :=
  let floor := num / den
  let twice := 2 * (num % den)
  if den < twice || (twice == den && floor % 2 == 1) then floor + 1 else floor

/-- The exponent at which `num / den` has a mantissa of 53 bits, or the least exponent if that one
is lower. -/
def exponentFor (num den : Nat) : Int :=
  let e : Int := (num.log2 : Int) - (den.log2 : Int) - 52
  let (p, q) := powTwo e
  max (if num * q < den * p * Nat.pow 2 52 then e - 1 else e) minExponent

/-- The double nearest to `± num / den`, or `none` when that lies beyond the greatest one. -/
def ofRatio (negative : Bool) (num den : Nat) : Option Binary64 :=
  if num = 0 || den = 0 then some ⟨negative, 0, minExponent⟩
  else
    let e := exponentFor num den
    let (p, q) := powTwo e
    let m := roundDiv (num * q) (den * p)
    let (m, e) := if m = Nat.pow 2 53 then (Nat.pow 2 52, e + 1) else (m, e)
    if maxExponent < e then none else some ⟨negative, m, e⟩

def ofNat (n : Nat) : Binary64 := (ofRatio false n 1).getD zero

/-- The double nearest to `± digits · 10 ^ exponent`, or `none` beyond the greatest one. Exponents so
far out that no double but zero is near are settled without writing the power down. -/
def ofDecimal (negative : Bool) (digits : Nat) (exponent : Int) : Option Binary64 :=
  let width : Int := (digits.log2 : Int) / 3 + 1
  if digits = 0 || exponent + width < -400 then some ⟨negative, 0, minExponent⟩
  else if 400 < exponent then none
  else if exponent < 0 then ofRatio negative digits (Nat.pow 10 exponent.natAbs)
  else ofRatio negative (digits * Nat.pow 10 exponent.natAbs) 1

/-- The product, rounded, or `none` beyond the greatest double. -/
def mul (x y : Binary64) : Option Binary64 :=
  let (p, q) := powTwo (x.exponent + y.exponent)
  ofRatio (x.negative != y.negative) (x.mantissa * y.mantissa * p) q

/-- The quotient by a number that is not zero, rounded, or `none` beyond the greatest double. -/
def div (x y : Binary64) : Option Binary64 :=
  let (p, q) := powTwo (x.exponent - y.exponent)
  ofRatio (x.negative != y.negative) (x.mantissa * p) (y.mantissa * q)

def isWhole (x : Binary64) : Bool :=
  let (_, q) := powTwo x.exponent
  x.mantissa % q == 0

end Binary64

end Typeforge
