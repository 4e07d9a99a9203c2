import Typeforge.Plugin.Descriptor

/-!
# The order of plugins

Each plugin runs after the plugins it depends on. The walk goes through the plugins as they are listed and
puts before each one those of its dependencies that have no place yet, so plugins that have nothing to do
with each other stay in the order in which they are listed.
-/

namespace Typeforge.Schedule

/-- The first name that an earlier one in the list repeats. -/
def repeated? (seen : List String) : List String → Option String
  | [] => none
  | name :: names => if seen.contains name then some name else repeated? (name :: seen) names

/-- The places of the plugins that the plugin at place `i` depends on. -/
def dependenciesOf (ds : List Descriptor) (i : Nat) : List Nat :=
  match ds[i]? with
  | some d => d.dependencies.filterMap fun name => ds.findIdx? fun e => e.name = name
  | none => []

/-- The names on the circle that the path closes when it comes to `i` again. -/
def circle (ds : List Descriptor) (path : List Nat) (i : Nat) : List String :=
  (i :: (path.takeWhile (· ≠ i)).reverse ++ [i]).filterMap fun j => (ds[j]?).map (·.name)

/-- The order with the plugin at `i` and what it depends on. `free` are the places that are not on `path`,
the way that led here, innermost first. -/
def visit (ds : List Descriptor) (free path order : List Nat) (i : Nat) : Except Failure (List Nat) :=
  if order.contains i then .ok order
  else if _h : i ∈ free then do
    let order ← (dependenciesOf ds i).foldlM (fun order d => visit ds (free.erase i) (i :: path) order d) order
    return order ++ [i]
  else .error (.pluginCycle (circle ds path i))
termination_by free.length
decreasing_by
  have := List.length_pos_of_mem _h
  rw [List.length_erase_of_mem _h]
  omega

/-- The places of the plugins in the order in which they run. -/
def order (ds : List Descriptor) : Except Failure (List Nat) :=
  match repeated? [] (ds.map (·.name)) with
  | some name => .error (.duplicatePlugin name)
  | none =>
    let places := List.range ds.length
    places.foldlM (fun order i => visit ds places [] order i) []

end Typeforge.Schedule
