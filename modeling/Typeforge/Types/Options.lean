import Typeforge.Options.Family

/-!
# Options of the types file
-/

namespace Typeforge.Types

open Naming Options

structure Options where
  /-- Descriptions become comments. -/
  comments : Bool := true
  /-- The key of the file. -/
  output : String := "types"
  definitions : Family := .ofTemplate .pascal "\x7b\x7bname\x7d\x7d"

structure OptionChanges where
  comments : Option Bool := none
  output : Option String := none
  definitions : Option (Setting FamilyChanges) := none

instance : Amendable Options OptionChanges where
  amend options changes := {
    comments := changed options.comments changes.comments
    output := changedUnless String.isEmpty options.output changes.output
    definitions := options.definitions.settle changes.definitions }

def Options.resolve (changes : Option OptionChanges) : Options :=
  settle ({} : Options) (changes.map .record) {}

open Json Decoder in
def OptionChanges.decode : Decoder OptionChanges
  | 0, _ => none
  | levels + 1, raw => do
    let fields ← fields? ["comments", "output", "definitions"] .refused raw
    return {
      comments := ← optional bool fields levels "comments"
      output := ← optional string fields levels "output"
      definitions := ← optional (Setting.decode FamilyChanges.decode) fields levels "definitions" }

end Typeforge.Types
