import Typeforge.Json.Value
import Typeforge.Toml.Moment
import Typeforge.Toml.Tree

/-!
# TOML as JSON

The JSON value of a tree. The fields of every table are sorted by their keys. A float that JSON cannot write
is null, and a date or a time is an object with one field. A table that begins with the key of this field
stands for a date or a time, too, and has to be one.
-/

namespace Typeforge.Toml

open Json (Value)

/-- The key of the one field that holds a date or a time. -/
def momentKey : String := "$__toml_private_datetime"

def sortFields {α : Type} (fields : List (String × α)) : List (String × α) :=
  fields.mergeSort fun a b => decide (a.1 ≤ b.1)

/-- The object that stands for a date or a time. -/
def momentValue (text : String) : Value := .object [(momentKey, .string text)]

def isMoment : List (String × Tree) → Bool
  | (key, _) :: _ => key == momentKey
  | [] => false

/-- The date or the time that a table stands for. -/
def momentOfFields? : List (String × Tree) → Option Value
  | [(_, .string text)] => (momentOf? text).map momentValue
  | _ => none

def objectOf (fields : List (String × Value)) : Value := .object (sortFields fields)

mutual

/-- The value of a tree, if its tables that stand for dates and times are ones. -/
def Tree.value? : Tree → Option Value
  | .string s => some (.string s)
  | .integer n => some (.number (.whole n))
  | .float x => some (.number (.float x))
  | .unbounded => some .null
  | .boolean b => some (.bool b)
  | .moment text => some (momentValue text)
  | .array items => (values? items).map .array
  | .table _ fields => if isMoment fields then momentOfFields? fields else (fieldValues? fields).map objectOf
  | .tables rows => (rowValues? rows).map .array

def values? : List Tree → Option (List Value)
  | [] => some []
  | t :: ts => do return (← t.value?) :: (← values? ts)

def fieldValues? : List (String × Tree) → Option (List (String × Value))
  | [] => some []
  | (k, t) :: fs => do return (k, ← t.value?) :: (← fieldValues? fs)

def rowValues? : List (List (String × Tree)) → Option (List Value)
  | [] => some []
  | row :: rows => do
    let value ← if isMoment row then momentOfFields? row else (fieldValues? row).map objectOf
    return value :: (← rowValues? rows)

end

end Typeforge.Toml
