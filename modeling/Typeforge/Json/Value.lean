import Typeforge.Decimal.Text
import Typeforge.Keyed

/-!
# JSON values

A number is a whole one, when it is written without a point or an exponent and fits 64 bits, or a
double; the two are never equal. Two objects are the same when they give the same keys the same values,
in whatever order.
-/

namespace Typeforge.Json

/-- Whole numbers lie between `-2 ^ 63` and `2 ^ 64 - 1`. -/
inductive Number where
  | whole (n : Int)
  | float (x : Binary64)
deriving DecidableEq

def Number.same : Number → Number → Bool
  | .whole m, .whole n => m == n
  | .float x, .float y => x.sameValue y
  | _, _ => false

def Number.toDouble : Number → Binary64
  | .whole n => if n < 0 then (Binary64.ofNat n.natAbs).neg else Binary64.ofNat n.natAbs
  | .float x => x

/-- The digits of a whole number or the full text of a double. -/
def Number.text : Number → String
  | .whole n => toString n
  | .float x => x.text

inductive Value where
  | null
  | bool (b : Bool)
  | number (n : Number)
  | string (s : String)
  | array (items : List Value)
  | object (fields : List (String × Value))
deriving Inhabited

mutual

def Value.same : Value → Value → Bool
  | .null, .null => true
  | .bool a, .bool b => a == b
  | .number m, .number n => m.same n
  | .string s, .string t => s == t
  | .array xs, .array ys => sameItems xs ys
  | .object fs, .object gs => fs.length == gs.length && sameFields fs gs
  | _, _ => false

def sameItems : List Value → List Value → Bool
  | [], [] => true
  | x :: xs, y :: ys => x.same y && sameItems xs ys
  | _, _ => false

/-- Every field of the first list has the same value in the second. -/
def sameFields : List (String × Value) → List (String × Value) → Bool
  | [], _ => true
  | (k, v) :: fs, gs =>
    (match Keyed.get? gs k with
      | some w => v.same w
      | none => false) && sameFields fs gs

end

def Value.field? (v : Value) (key : String) : Option Value :=
  match v with
  | .object fields => Keyed.get? fields key
  | _ => none

end Typeforge.Json
