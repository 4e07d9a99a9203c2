import Typeforge.Decimal.Binary64
import Typeforge.Keyed

/-!
# Tables

The tree of a TOML document while it is read. A table remembers how it came about, because that decides
what may still be added to it: a header may complete a table that was only on the way to another one, and a
dotted key may go on through the tables that dotted keys made.
-/

namespace Typeforge.Toml

/-- How a table came about. -/
inductive Origin where
  /-- On the way of a header to another table. -/
  | implied
  /-- On the way of a dotted key. -/
  | dotted
  /-- By a header of its own. -/
  | header
  /-- Between braces; nothing can be added. -/
  | inline
deriving DecidableEq

inductive Tree where
  | string (s : String)
  | integer (n : Int)
  | float (x : Binary64)
  /-- A float that is infinite or no number. -/
  | unbounded
  | boolean (b : Bool)
  /-- A date or a time, as it is written in full. -/
  | moment (text : String)
  | array (items : List Tree)
  | table (origin : Origin) (fields : List (String × Tree))
  /-- The tables that double brackets open one after the other, which makes the last one the open one. -/
  | tables (rows : List (List (String × Tree)))
deriving Inhabited

/-- The fields of a table in the order in which they came. -/
abbrev Fields := List (String × Tree)

namespace Fields

/-- Changes the value of a key, or adds the key when it has none. -/
def alter (key : String) (change : Option Tree → Option Tree) : Fields → Option Fields
  | [] => (change none).map fun t => [(key, t)]
  | (k, t) :: fields =>
    if k = key then (change (some t)).map fun t => (key, t) :: fields
    else (alter key change fields).map ((k, t) :: ·)

/-- Changes the last row. -/
def alterLast (change : Fields → Option Fields) : List Fields → Option (List Fields)
  | [] => none
  | [row] => (change row).map fun r => [r]
  | row :: rows => (alterLast change rows).map (row :: ·)

/-- Adds a key that has no value yet. -/
def insertNew (key : String) (value : Tree) (fields : Fields) : Option Fields :=
  if fields.any fun f => f.1 == key then none else some (fields ++ [(key, value)])

/-- Adds the value of a dotted key. The tables on the way may not have headers of their own, and the last of
them has to be one that dotted keys made. -/
def insert (key : String) (value : Tree) : List String → Fields → Option Fields
  | [], fields => insertNew key value fields
  | p :: ps, fields =>
    alter p (fun
      | none => (insert key value ps []).map (.table .dotted)
      | some (.table origin inner) =>
        if origin = .dotted || (origin = .implied && !ps.isEmpty) then
          (insert key value ps inner).map (.table origin)
        else none
      | some (.tables rows) =>
        if ps.isEmpty then none else (alterLast (insert key value ps) rows).map .tables
      | some _ => none) fields

/-- Opens the table of a key, which comes after all others then. It may only have been on the way to another
table before. -/
def openHere (key : String) (fields : Fields) : Option Fields :=
  match Keyed.get? fields key with
  | none => some (fields ++ [(key, .table .header [])])
  | some (.table .implied inner) => some ((fields.filter fun f => f.1 != key) ++ [(key, .table .header inner)])
  | some _ => none

/-- Opens another row of the tables of a key. -/
def openRow (key : String) (fields : Fields) : Option Fields :=
  alter key (fun
    | none => some (.tables [[]])
    | some (.tables rows) => some (.tables (rows ++ [[]]))
    | some _ => none) fields

/-- Opens the table of a header, or with `row` another row of its tables. -/
def openTable (row : Bool) : List String → Fields → Option Fields
  | [], _ => none
  | [key], fields => if row then openRow key fields else openHere key fields
  | p :: ps, fields =>
    alter p (fun
      | none => (openTable row ps []).map (.table .implied)
      | some (.table origin inner) =>
        if origin = .inline then none else (openTable row ps inner).map (.table origin)
      | some (.tables rows) => (alterLast (openTable row ps) rows).map .tables
      | some _ => none) fields

/-- Changes the table that the header `path` has opened. -/
def within (change : Fields → Option Fields) : List String → Fields → Option Fields
  | [], fields => change fields
  | p :: ps, fields =>
    alter p (fun
      | some (.table origin inner) => (within change ps inner).map (.table origin)
      | some (.tables rows) => (alterLast (within change ps) rows).map .tables
      | _ => none) fields

end Fields

end Typeforge.Toml
