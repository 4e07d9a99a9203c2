import Typeforge.Plugin.Schedule

/-!
# Runs

A run fills one file for each plugin, in the order of the schedule. No two plugins may write the same file.
-/

namespace Typeforge

/-- The first plugin whose file an earlier one writes already. -/
def sharedOutput? (seen : List String) : List Descriptor → Option Descriptor
  | [] => none
  | d :: ds => if seen.contains d.output then some d else sharedOutput? (d.output :: seen) ds

/-- The files so far and the one that the plugin fills. -/
def runPlugin (document : Schema.Document) (produced : List Produced) (p : Plugin) :
    Except Failure (List Produced) := do
  let file ← p.fill ⟨document, produced⟩ { id := p.output }
  return produced ++ [⟨p.name, file⟩]

/-- The files of the plugins, in the order in which they ran. -/
def generate (document : Schema.Document) (plugins : List Plugin) : Except Failure (List Produced) :=
  let ds := plugins.map Plugin.toDescriptor
  match sharedOutput? [] ds with
  | some d => .error (.misconfigured (.sharedOutput d.name d.output))
  | none => do
    let order ← Schedule.order ds
    (order.filterMap fun i => plugins[i]?).foldlM (runPlugin document) []

end Typeforge
