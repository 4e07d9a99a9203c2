import Typeforge.Naming.Rule
import Typeforge.Options.Setting

/-!
# Naming families

Declarations fall into families, such as requests and responses. Each family has a style for its names and
can be switched off.
-/

namespace Typeforge.Options

open Naming

/-- How the declarations of a family are named, and whether there are any. -/
structure Family extends Style where
  enabled : Bool := true

/-- An enabled family whose names follow a template. -/
def Family.ofTemplate (case : Case) (template : String) : Family := { case, rule := .template template }

structure FamilyChanges where
  enabled : Option Bool := none
  case : Option Case := none
  rule : Option Rule := none

def isBlankRule : Rule → Bool
  | .template t => t.isEmpty
  | .function _ => false

instance : Amendable Family FamilyChanges where
  amend family changes := {
    enabled := changed family.enabled changes.enabled
    case := changed family.case changes.case
    rule := changedUnless isBlankRule family.rule changes.rule }

/-- A flag switches the family on or off, a text is a template for its names, and a function makes its
names. -/
def Family.shorthands : Shorthands Family FamilyChanges where
  flag := some fun enabled => { enabled := some enabled }
  text := some fun template => { rule := some (.template template) }
  function := some fun f => { rule := some (.function f) }

/-- The family after a setting in the usual shorthands. -/
def Family.settle (family : Family) (setting : Option (Setting FamilyChanges)) : Family :=
  Options.settle family setting shorthands

open Json Decoder

def FamilyChanges.decode : Decoder FamilyChanges
  | 0, _ => none
  | levels + 1, raw => do
    let fields ← fields? ["enabled", "case", "name"] .ignored raw
    return {
      enabled := ← optional bool fields levels "enabled"
      case := ← optional (word Case.words) fields levels "case"
      rule := (← optional string fields levels "name").map .template }

end Typeforge.Options
