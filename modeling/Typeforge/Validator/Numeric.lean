import Typeforge.Code.Constant

/-!
# Numbers of a format

A format such as `int32` bounds the integers it names. Integers of 64 bits do not fit a double, so they are
written as `BigInt` of their digits; a bound with a fraction, which `BigInt` refuses, stays a number.
-/

namespace Typeforge.Validator

open Code Json

/-- Integers of a fixed width. -/
structure Width where
  signed : Bool
  bits : Nat
deriving DecidableEq

namespace Width

/-- The widths that formats name. -/
def all : List Width :=
  [⟨true, 8⟩, ⟨true, 16⟩, ⟨true, 32⟩, ⟨true, 64⟩, ⟨false, 8⟩, ⟨false, 16⟩, ⟨false, 32⟩, ⟨false, 64⟩]

def format (w : Width) : String := (if w.signed then "int" else "uint") ++ toString w.bits

def ofFormat? (format : String) : Option Width := all.find? fun w => w.format == format

/-- The bits that carry the magnitude. -/
def magnitudeBits (w : Width) : Nat := if w.signed then w.bits - 1 else w.bits

def least (w : Width) : Int := if w.signed then -Int.pow 2 w.magnitudeBits else 0

def greatest (w : Width) : Int := Int.pow 2 w.magnitudeBits - 1

def expected (w : Width) (bound : String) : String :=
  "Invalid value: Expected " ++ w.format ++ " to be " ++ bound

/-- What is said of a value below the least integer. -/
def tooSmall (w : Width) : String :=
  w.expected (if w.signed then ">= -2^" ++ toString w.magnitudeBits else ">= 0")

/-- What is said of a value above the greatest integer. -/
def tooGreat (w : Width) : String := w.expected ("<= 2^" ++ toString w.magnitudeBits ++ "-1")

end Width

/-- Whether the values of a format do not fit a double. -/
def isWide (format : Option String) : Bool := format = some "int64" || format = some "uint64"

/-- The integer with the given digits, beyond the doubles. -/
def bigInt (digits : String) : Expr := .call (.ident "BigInt") [.string digits]

def widthBound (n : Int) (wide : Bool) : Expr := if wide then bigInt (toString n) else .literal (.int n)

def nodeBound (x : Binary64) (wide : Bool) : Expr :=
  if wide && x.isWhole then bigInt x.text else .literal (.number x)

/-- Digits without the mark of big integers after them. -/
def dropMark (digits : String) : String :=
  let cs := digits.toList
  if cs.getLast? = some 'n' then String.ofList cs.dropLast else digits

def numericConstant (value : Value) (format : Option String) : Expr :=
  match value with
  | .number (.whole n) => if isWide format then bigInt (toString n) else .literal (.ofNumber (.whole n))
  | .string s => if isWide format then bigInt (dropMark s) else .string s
  | value => .ofValue value

end Typeforge.Validator
