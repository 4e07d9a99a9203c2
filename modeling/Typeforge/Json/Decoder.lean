import Typeforge.Json.Raw

/-!
# Decoding records

How the tree of a JSON text becomes a record. A record is written as an object, whose keys are the names
of the fields, or as an array of its fields in the order of their declaration; a name that is written twice
is an error. A `Decoder` is given how many arrays and objects may still nest.
-/

namespace Typeforge.Json

/-- Decodes a tree that nests at most the given number of arrays and objects. -/
abbrev Decoder (α : Type) := Nat → Raw → Option α

namespace Decoder

/-- What becomes of names that no field has. -/
inductive Unknown where
  | ignored
  | refused
deriving DecidableEq

def timesWritten (fields : List (String × Raw)) (key : String) : Nat :=
  fields.countP fun f => f.1 == key

/-- The fields of a record by name, in the order of `names`. -/
def fields? (names : List String) (unknown : Unknown) : Raw → Option (Keyed Raw)
  | .object fields =>
    if names.any fun n => 1 < timesWritten fields n then none
    else if unknown == .refused && fields.any fun f => !names.contains f.1 then none
    else some fields
  | .array items => if names.length < items.length then none else some (names.zip items)
  | _ => none

/-- Whether a record is written as an array with fewer than `n` items. -/
def shorterThan (n : Nat) : Raw → Bool
  | .array items => items.length < n
  | _ => false

def bool : Decoder Bool
  | _, .bool b => some b
  | _, _ => none

def string : Decoder String
  | _, .string s => some s
  | _, _ => none

/-- A whole number from 0 to `2 ^ 64 - 1`. -/
def count : Decoder Nat
  | _, .number (.whole n) => if n < 0 then none else some n.toNat
  | _, _ => none

/-- Any number, as a double. -/
def double : Decoder Binary64
  | _, .number n => some n.toDouble
  | _, _ => none

def value : Decoder Value := Raw.value?

def list {α : Type} (item : Decoder α) : Decoder (List α)
  | levels + 1, .array items => items.mapM (item levels)
  | _, _ => none

/-- A map from keys of any kind; of one key the last value counts. -/
def keyed {α : Type} (item : Decoder α) : Decoder (Keyed α)
  | levels + 1, .object fields => do
    return Keyed.ofEntries (← fields.mapM fun (k, r) => return (k, ← item levels r))
  | _, _ => none

/-- One of the given words, written as a string or as an object that gives the word `null`. -/
def word {α : Type} (words : List (String × α)) : Decoder α
  | _, .string s => Keyed.get? words s
  | _ + 1, .object [(s, .null)] => Keyed.get? words s
  | _, _ => none

/-- A part that null stands for the absence of. -/
def nullable {α : Type} (part : Decoder α) : Decoder (Option α)
  | _, .null => some none
  | levels, r => (part levels r).map some

/-- A field that must be there. -/
def needed {α : Type} (part : Decoder α) (fields : Keyed Raw) (levels : Nat) (name : String) : Option α :=
  (Keyed.get? fields name).bind (part levels)

/-- A field that may be left out, but not null. -/
def withDefault {α : Type} (part : Decoder α) (default : α) (fields : Keyed Raw) (levels : Nat) (name : String) :
    Option α :=
  match Keyed.get? fields name with
  | some r => part levels r
  | none => some default

/-- A field that may be left out or null. -/
def optional {α : Type} (part : Decoder α) (fields : Keyed Raw) (levels : Nat) (name : String) :
    Option (Option α) :=
  withDefault (nullable part) none fields levels name

/-- A field that may be left out, where null is a value. -/
def present {α : Type} (part : Decoder α) (fields : Keyed Raw) (levels : Nat) (name : String) :
    Option (Option α) :=
  match Keyed.get? fields name with
  | some r => (part levels r).map some
  | none => some none

/-- What a value decodes to, which may nest as deep as it does. -/
def ofValue? {α : Type} (part : Decoder α) (v : Value) : Option α :=
  let raw := Raw.ofValue v
  part raw.depth raw

end Decoder

end Typeforge.Json
