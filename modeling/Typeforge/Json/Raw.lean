import Typeforge.Json.Value

/-!
# JSON as it is written

The tree of a JSON text before its values are taken: an object keeps every field that is written, also
one whose key came before, and what is well formed but has no value is a leaf of its own. Whoever decodes
a tree can so pass over the parts that are not asked for.
-/

namespace Typeforge.Json

inductive Raw where
  | null
  | bool (b : Bool)
  | number (n : Number)
  | string (s : String)
  | array (items : List Raw)
  | object (fields : List (String × Raw))
  /-- Well formed, but a number beyond the doubles, a string with half a surrogate pair, or an object
  with such a key. -/
  | unreadable
deriving Inhabited

namespace Raw

mutual

/-- The value of a tree that nests at most `levels` arrays and objects. Of the fields with one key the
last one counts, at the place of the first. -/
def value? (levels : Nat) : Raw → Option Value
  | .null => some .null
  | .bool b => some (.bool b)
  | .number n => some (.number n)
  | .string s => some (.string s)
  | .array items => if levels = 0 then none else (values? (levels - 1) items).map .array
  | .object fields =>
    if levels = 0 then none else (fieldValues? (levels - 1) fields).map fun fs => .object (Keyed.ofEntries fs)
  | .unreadable => none

def values? (levels : Nat) : List Raw → Option (List Value)
  | [] => some []
  | r :: rs => do return (← value? levels r) :: (← values? levels rs)

def fieldValues? (levels : Nat) : List (String × Raw) → Option (List (String × Value))
  | [] => some []
  | (k, r) :: rs => do return (k, ← value? levels r) :: (← fieldValues? levels rs)

end

mutual

def depth : Raw → Nat
  | .array items => depths items + 1
  | .object fields => fieldDepths fields + 1
  | _ => 0

def depths : List Raw → Nat
  | [] => 0
  | r :: rs => max r.depth (depths rs)

def fieldDepths : List (String × Raw) → Nat
  | [] => 0
  | (_, r) :: rs => max r.depth (fieldDepths rs)

end

mutual

/-- The tree that writes a value. -/
def ofValue : Value → Raw
  | .null => .null
  | .bool b => .bool b
  | .number n => .number n
  | .string s => .string s
  | .array items => .array (ofValues items)
  | .object fields => .object (ofFields fields)

def ofValues : List Value → List Raw
  | [] => []
  | v :: vs => ofValue v :: ofValues vs

def ofFields : List (String × Value) → List (String × Raw)
  | [] => []
  | (k, v) :: fs => (k, ofValue v) :: ofFields fs

end

end Raw

end Typeforge.Json
