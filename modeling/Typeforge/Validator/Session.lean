import Typeforge.Failure
import Typeforge.Naming.Table
import Typeforge.Schema.Document
import Typeforge.Validator.Declaration
import Typeforge.Validator.Options

/-!
# Following references

A validator points at other declarations by their references. Each reference is followed once: what it
leads to is declared before the validator that needs it. A reference that is being followed already is used
lazily. What a `Session` has declared stays when following fails.

`follow` takes a budget that falls with each reference on the way. A reference that has a name already ends
the way, and all the others on it are different, so the budget of `followBudget` does not run out.
-/

namespace Typeforge.Validator

open Schema Naming

structure Session where
  /-- The names of the references that are or will be declared. -/
  names : Table := []
  /-- What is declared so far, in order. -/
  declarations : List Declaration := []
  /-- The references that are being followed, the innermost first. -/
  following : List String := []
  /-- Some reference was used lazily. -/
  postponed : Bool := false
  /-- How references are named on the way. -/
  style : Style

/-- Steps that may fail, and leave a session in either case. -/
abbrev Compile := ExceptT Failure (StateM Session)

/-- What a run compiles, and how. -/
structure Task where
  document : Document
  options : Options

/-- The steps with `reference` among those being followed; it is taken off afterwards unless it was there
before. -/
def following {α : Type} (reference : Option String) (steps : Compile α) : Compile α :=
  ExceptT.mk fun s =>
    match reference with
    | none => steps.run.run s
    | some r =>
      if s.following.contains r then steps.run.run s
      else
        let (result, t) := steps.run.run { s with following := r :: s.following }
        (result, { t with following := t.following.erase r })

/-- The steps in a session of their own, which only adds names and declarations. -/
def apart {α : Type} (style : Style) (steps : Compile α) : Compile α :=
  ExceptT.mk fun s =>
    let (result, t) := steps.run.run { s with following := [], postponed := false, style }
    (result, { t with following := s.following, postponed := s.postponed, style := s.style })

/-- The name of a reference, which is made in the style if there is none. -/
def assignName (reference : String) (style : Style) : Compile Assigned :=
  modifyGet fun s =>
    let (assigned, names) := s.names.assign reference style
    (assigned, { s with names })

/-- The validator and the refinements of a node, which `optional` says may be left out and `reference` leads to.
When a name was made for it just now, the node is declared under the name and nothing is left. -/
def compileWith (options : Options) (follow : String → Compile Use) (n : Node) (optional : Bool)
    (reference : Option String) (assigned : Option Assigned) : Compile (List (Sketch Use)) := do
  let parts ← following reference (Sketch.traverseList follow (outline options.metadata n optional))
  match assigned with
  | some ⟨name, true⟩ =>
    modify fun s => { s with declarations := s.declarations ++ [{
      name
      comment := if options.comments then commentOn n.settled.toAttributes else []
      annotated := s.postponed
      validator := .pipe parts }] }
    return []
  | _ => return parts

/-- The name of the reference that leads to a node, which is declared if the name is new. -/
def declareWith (options : Options) (follow : String → Compile Use) (reference : String) (n : Node)
    (style : Style) : Compile String := do
  let assigned ← assignName reference style
  if assigned.created then
    let _ ← compileWith options follow n false (some reference) (some assigned)
  return assigned.name

/-- The use of what a reference leads to. -/
def follow (task : Task) : Nat → String → Compile Use
  | 0, reference => throw (.danglingReference reference)
  | budget + 1, reference => do
    let s ← get
    let postponed := s.following.contains reference
    let name ← match s.names.nameOf? reference, task.document.resolve? reference with
      | some name, _ => pure name
      | none, some n => declareWith task.options (follow task budget) reference n s.style
      | none, none => throw (.danglingReference reference)
    if postponed then modify fun s => { s with postponed }
    return { name, postponed }

/-- The length of the longest way that references can lead: each reference in the components once, before them
the one in a node elsewhere that the way begins with, and after them one that has its name already. -/
def followBudget (d : Document) : Nat := d.components.references.length + 2

/-- The validator and the refinements of a node. With a reference the node is what it leads to, and becomes a
declaration unless the reference has a name; who has asked for the name before says what the answer was. -/
def compile (task : Task) (n : Node) (optional : Bool) (reference : Option String)
    (answer : Option (Option Assigned) := none) : Compile (List (Sketch Use)) := do
  let assigned ← match reference, answer with
    | some r, none => some <$> (get >>= fun s => assignName r s.style)
    | _, answer => pure answer.join
  compileWith task.options (follow task (followBudget task.document)) n optional reference assigned

/-- Declares what a reference leads to, unless it has a name. -/
def declare (task : Task) (reference : String) (n : Node) (style : Style) : Compile Unit := do
  let _ ← declareWith task.options (follow task (followBudget task.document)) reference n style

end Typeforge.Validator
