import Typeforge.Keyed
import Typeforge.Code.Tree

/-!
# The functions of Valibot

Validators are built by calls such as `v.string()`, refined by actions such as `v.minLength(3)`, and put
together by `v.pipe`.
-/

namespace Typeforge.Validator

open Code

/-- The functions that make a validator. -/
inductive Maker where
  | array
  | bigInt
  | boolean
  | intersect
  | lazy
  | literal
  | never
  | null
  | nullable
  | number
  | object
  | optional
  | picklist
  | record
  | string
  | tuple
  | undefined
  | union
  | unknown
  | void
deriving DecidableEq

/-- The functions that refine a validator, and the one that applies them. -/
inductive Action where
  | email
  | gtValue
  | integer
  | ip
  | isoDate
  | isoTimestamp
  | length
  | ltValue
  | maxLength
  | maxValue
  | metadata
  | minLength
  | minValue
  | pipe
  | readonly
  | regex
  | time
  | transform
  | url
  | uuid
deriving DecidableEq

def Maker.name : Maker → String
  | .array => "array"
  | .bigInt => "bigInt"
  | .boolean => "boolean"
  | .intersect => "intersect"
  | .lazy => "lazy"
  | .literal => "literal"
  | .never => "never"
  | .null => "null"
  | .nullable => "nullable"
  | .number => "number"
  | .object => "object"
  | .optional => "optional"
  | .picklist => "picklist"
  | .record => "record"
  | .string => "string"
  | .tuple => "tuple"
  | .undefined => "undefined"
  | .union => "union"
  | .unknown => "unknown"
  | .void => "void"

def Action.name : Action → String
  | .email => "email"
  | .gtValue => "gtValue"
  | .integer => "integer"
  | .ip => "ip"
  | .isoDate => "isoDate"
  | .isoTimestamp => "isoTimestamp"
  | .length => "length"
  | .ltValue => "ltValue"
  | .maxLength => "maxLength"
  | .maxValue => "maxValue"
  | .metadata => "metadata"
  | .minLength => "minLength"
  | .minValue => "minValue"
  | .pipe => "pipe"
  | .readonly => "readonly"
  | .regex => "regex"
  | .time => "time"
  | .transform => "transform"
  | .url => "url"
  | .uuid => "uuid"

def Maker.all : List Maker :=
  [.array, .bigInt, .boolean, .intersect, .lazy, .literal, .never, .null, .nullable, .number, .object, .optional,
    .picklist, .record, .string, .tuple, .undefined, .union, .unknown, .void]

def Action.all : List Action :=
  [.email, .gtValue, .integer, .ip, .isoDate, .isoTimestamp, .length, .ltValue, .maxLength, .maxValue, .metadata,
    .minLength, .minValue, .pipe, .readonly, .regex, .time, .transform, .url, .uuid]

/-- The refinement that checks a format of strings. -/
def Action.ofFormat? (format : String) : Option Action :=
  Keyed.get? [("date", .isoDate), ("date-time", .isoTimestamp), ("ipv4", .ip), ("ipv6", .ip), ("uri", .url),
    ("email", .email), ("time", .time), ("uuid", .uuid)] format

/-- The name that a generated file knows the library by. -/
def namespaceName : String := "v"

def apply (function : String) (args : List Expr) : Expr := .call (.member (.ident namespaceName) function) args

def Maker.apply (m : Maker) (args : List Expr) : Expr := Validator.apply m.name args

def Action.apply (a : Action) (args : List Expr) : Expr := Validator.apply a.name args

/-- The validator that accepts every value. -/
def unknown : Expr := Maker.unknown.apply []

/-- A validator and its refinements. One alone stands for itself, and none accepts every value. -/
def pipe : List Expr → Expr
  | [] => unknown
  | [e] => e
  | es => Action.pipe.apply es

def topType : Ty := .ref (namespaceName ++ ".GenericSchema")

def libraryImport : Import := ⟨.everything namespaceName, "valibot", false⟩

end Typeforge.Validator
