import Typeforge.Json.Value
import Typeforge.Code.Tree

/-!
# Constants

JSON values as expressions and as types, and names as keys of object literals. An object has no literal
type, so its type is `unknown`.
-/

namespace Typeforge.Code

open Json

/-- A nonempty run of ASCII digits. -/
def isDigits (cs : List Char) : Bool := !cs.isEmpty && cs.all Char.isDigit

/-- How a property name is written in an object literal. Digits alone are a number; a name that begins
with a digit otherwise, or holds a character other than ASCII letters, digits and `_`, is quoted. -/
def Key.ofName (name : String) : Key :=
  let cs := name.toList
  let mixed := cs.head?.any Char.isDigit && !cs.all Char.isDigit
  if mixed || cs.any fun c => !(c.isAlphanum || c == '_') then .str name
  else if isDigits cs then .num name
  else .ident name

/-- A whole number that fits 63 bits and a sign stays one; any other number is a double. -/
def Literal.ofNumber : Number → Literal
  | .whole n => if n < Int.pow 2 63 then .int n else .number (Number.whole n).toDouble
  | .float x => .number x

mutual

def Expr.ofValue : Value → Expr
  | .null => .literal .null
  | .bool b => .literal (.bool b)
  | .number n => .literal (.ofNumber n)
  | .string s => .string s
  | .array items => .array (exprsOfValues items)
  | .object fields => .object (propertiesOfFields fields)

def exprsOfValues : List Value → List Expr
  | [] => []
  | v :: vs => .ofValue v :: exprsOfValues vs

def propertiesOfFields : List (String × Value) → List (Key × Expr)
  | [] => []
  | (name, v) :: fs => (.ofName name, .ofValue v) :: propertiesOfFields fs

end

mutual

/-- The type of a value alone. -/
def Ty.ofValue : Value → Ty
  | .null => .literal .null
  | .bool b => .literal (.bool b)
  | .number n => .literal (.ofNumber n)
  | .string s => .literal (.string s)
  | .array items => .tuple (typesOfValues items)
  | .object _ => .keyword .unknown

def typesOfValues : List Value → List Ty
  | [] => []
  | v :: vs => .ofValue v :: typesOfValues vs

end

def Ty.stringRecord (value : Ty) : Ty := .record (.keyword .string) value

def Ty.unknownRecord : Ty := .stringRecord (.keyword .unknown)

end Typeforge.Code
