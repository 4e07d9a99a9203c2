import Typeforge.Decimal.Shortest

/-!
# How a double is written

A double is written by the digits of its shortest decimal. A `Form` says where the point may stand for
the number to be written without an exponent, what follows a whole number then, and which of two equally
near decimals is the one to write. The `plain` form
never uses an exponent; the `listing` form shows a whole number as a double and keeps far numbers short.
-/

namespace Typeforge.Decimal

/-- How doubles are written in one place. -/
structure Form where
  /-- Whether a number whose point stands at this position is written without an exponent. -/
  positional : Int → Bool
  /-- What follows a whole number that is written without an exponent. -/
  wholeMark : String
  /-- Which of two shortest decimals is written. -/
  tie : Tie

/-- Every number is written out in full. -/
def plain : Form := ⟨fun _ => true, "", .greater⟩

/-- Numbers from `10 ^ -4` up to `10 ^ 16` are written out, the others with an exponent. -/
def listing : Form := ⟨fun k => -3 ≤ k && k ≤ 16, ".0", .greater⟩

/-- The digits without zeros at the end, and how many were taken off. -/
def trimZeros (digits : List Char) : List Char × Nat :=
  let kept := (digits.reverse.dropWhile (· == '0')).reverse
  (kept, digits.length - kept.length)

/-- The digits of a number other than zero without zeros at the end, and the position of the point
before the first one. -/
def significant (x : Scaled) : List Char × Int :=
  let written := Nat.toDigits 10 x.digits
  ((trimZeros written).1, written.length + x.exponent)

def zeros (n : Nat) : List Char := List.replicate n '0'

/-- Digits with the point at position `point`, without an exponent. -/
def writePositional (wholeMark : String) (digits : List Char) (point : Int) : List Char :=
  if point ≤ 0 then '0' :: '.' :: zeros point.natAbs ++ digits
  else if digits.length ≤ point.natAbs then
    digits ++ zeros (point.natAbs - digits.length) ++ wholeMark.toList
  else digits.take point.natAbs ++ '.' :: digits.drop point.natAbs

/-- Digits with the point after the first one, and the exponent that belongs there. -/
def writeScientific (digits : List Char) (point : Int) : List Char :=
  let fraction := digits.drop 1
  digits.take 1 ++ (if fraction.isEmpty then [] else '.' :: fraction) ++ 'e' :: (toString (point - 1)).toList

def Form.magnitude (f : Form) (m : Nat) (e : Int) : List Char :=
  if m = 0 then '0' :: f.wholeMark.toList
  else
    let (digits, point) := significant (shortest f.tie m e)
    if f.positional point then writePositional f.wholeMark digits point
    else writeScientific digits point

/-- The text of a double; a zero keeps its sign. -/
def Form.write (f : Form) (x : Binary64) : String :=
  String.ofList ((if x.negative then ['-'] else []) ++ f.magnitude x.mantissa x.exponent)

end Typeforge.Decimal

namespace Typeforge

def Binary64.text (x : Binary64) : String := Decimal.plain.write x

end Typeforge
