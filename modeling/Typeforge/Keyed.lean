/-!
# Keyed lists

A map that keeps the order in which its keys came is the list of its entries. Putting a key that is
there already changes its value and not its place, so no key occurs twice in a list built by `put`.
-/

namespace Typeforge

/-- The entries of a map, in the order in which their keys came. -/
abbrev Keyed (α : Type) := List (String × α)

namespace Keyed

variable {α : Type}

def get? (m : Keyed α) (key : String) : Option α :=
  match m with
  | [] => none
  | (k, v) :: rest => if k = key then some v else get? rest key

/-- Gives the key a value. A new key comes last. -/
def put (m : Keyed α) (key : String) (value : α) : Keyed α :=
  match m with
  | [] => [(key, value)]
  | (k, v) :: rest => if k = key then (k, value) :: rest else (k, v) :: put rest key value

/-- The entries put one after the other: the first place and the last value of each key. -/
def ofEntries (entries : List (String × α)) : Keyed α :=
  entries.foldl (fun m e => put m e.1 e.2) []

def keys (m : Keyed α) : List String := m.map Prod.fst

end Keyed

end Typeforge
