import Typeforge.Decimal.Text

/-!
# Syntax trees

The part of TypeScript that generated files are written in: types, expressions and the statements of a
module.
-/

namespace Typeforge.Code

inductive Keyword where
  | string
  | number
  | bigint
  | boolean
  | null
  | undefined
  | never
  | void
  | unknown
deriving DecidableEq

inductive Literal where
  | string (s : String)
  | number (x : Binary64)
  | int (n : Int)
  | bool (b : Bool)
  | null
  /-- The double that is no number. -/
  | notANumber
  | infinity (negative : Bool)
deriving DecidableEq

/-- A property of an interface or an object type. -/
structure Member (τ : Type) where
  name : String
  type : τ
  optional : Bool
  readonly : Bool

inductive Ty where
  | keyword (k : Keyword)
  | array (element : Ty)
  | tuple (elements : List Ty)
  | union (members : List Ty)
  | intersection (members : List Ty)
  | object (members : List (Member Ty))
  | record (key value : Ty)
  | literal (l : Literal)
  /-- A declared name. -/
  | ref (name : String)
deriving Inhabited

/-- The key of a property in an object literal. -/
inductive Key where
  | ident (name : String)
  | str (name : String)
  | num (name : String)
deriving DecidableEq

structure Param where
  name : String
  type : Option Ty := none
  optional : Bool := false

inductive Expr where
  | ident (name : String)
  | literal (l : Literal)
  | call (callee : Expr) (args : List Expr)
  | arrow (params : List Param) (body : Expr)
  | object (properties : List (Key × Expr))
  | member (receiver : Expr) (property : String)
  | array (items : List Expr)
  /-- The pattern of a regular expression, without slashes. -/
  | regex (pattern : String)
deriving Inhabited

def Expr.string (s : String) : Expr := .literal (.string s)

/-- A function without parameters. -/
def Expr.thunk (body : Expr) : Expr := .arrow [] body

structure ImportItem where
  name : String
  localName : Option String := none
deriving DecidableEq

inductive Binding where
  | everything (localName : String)
  | named (items : List ImportItem)
deriving DecidableEq

structure Import where
  binding : Binding
  specifier : String
  typeOnly : Bool := false
deriving DecidableEq

inductive Stmt where
  | const (exported : Bool) (name : String) (type : Option Ty) (init : Expr)
  | interface (name : String) (members : List (Member Ty))
  | typeAlias (name : String) (type : Ty)
  /-- A comment on the next statement. -/
  | doc (paragraphs : List String)

structure Module where
  imports : List Import := []
  body : List Stmt := []

mutual

/-- Sameness of types: two zeros are one number, while a number and an integer are never the same. -/
def Ty.same : Ty → Ty → Bool
  | .keyword k, .keyword l => decide (k = l)
  | .array t, .array u => t.same u
  | .tuple ts, .tuple us => sameTypes ts us
  | .union ts, .union us => sameTypes ts us
  | .intersection ts, .intersection us => sameTypes ts us
  | .object ms, .object ns => sameMembers ms ns
  | .record k v, .record l w => k.same l && v.same w
  | .literal (.number x), .literal (.number y) => x.sameValue y
  | .literal .notANumber, .literal .notANumber => false
  | .literal l, .literal m => decide (l = m)
  | .ref n, .ref m => n == m
  | _, _ => false

def sameTypes : List Ty → List Ty → Bool
  | [], [] => true
  | t :: ts, u :: us => t.same u && sameTypes ts us
  | _, _ => false

def sameMembers : List (Member Ty) → List (Member Ty) → Bool
  | [], [] => true
  | ⟨n, t, o, r⟩ :: ms, ⟨n', t', o', r'⟩ :: ns =>
    n == n' && t.same t' && o == o' && r == r' && sameMembers ms ns
  | _, _ => false

end

end Typeforge.Code
