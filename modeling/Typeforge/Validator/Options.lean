import Typeforge.Options.Family

/-!
# Options of the validator file

The families are definitions, requests and responses. A case set for all of them comes before what is set
for one. Definitions are always written, so no flag switches them off.
-/

namespace Typeforge.Validator

open Naming Options

structure Options where
  /-- Titles and descriptions become comments. -/
  comments : Bool := true
  /-- Descriptions become metadata. -/
  metadata : Bool := false
  /-- The case of all families. -/
  case : Case := .camel
  /-- The key of the file. -/
  output : String := "valibot"
  definitions : Family := .ofTemplate .camel "v\x7b\x7bname\x7d\x7d"
  requests : Family := .ofTemplate .camel "v\x7b\x7bname\x7d\x7dData"
  responses : Family := .ofTemplate .camel "v\x7b\x7bname\x7d\x7dResponse"

structure OptionChanges where
  comments : Option Bool := none
  metadata : Option Bool := none
  case : Option Case := none
  output : Option String := none
  definitions : Option (Setting FamilyChanges) := none
  requests : Option (Setting FamilyChanges) := none
  responses : Option (Setting FamilyChanges) := none

/-- The usual shorthands of a family, but a flag has no meaning. -/
def definitionShorthands : Shorthands Family FamilyChanges := { Family.shorthands with flag := none }

instance : Amendable Options OptionChanges where
  amend options changes :=
    let case := changed options.case changes.case
    { comments := changed options.comments changes.comments
      metadata := changed options.metadata changes.metadata
      case
      output := changedUnless String.isEmpty options.output changes.output
      definitions := settle { options.definitions with case } changes.definitions definitionShorthands
      requests := Family.settle { options.requests with case } changes.requests
      responses := Family.settle { options.responses with case } changes.responses }

def Options.resolve (changes : Option OptionChanges) : Options :=
  settle ({} : Options) (changes.map .record) {}

open Json Decoder in
def OptionChanges.decode : Decoder OptionChanges
  | 0, _ => none
  | levels + 1, raw => do
    let fields ← fields? ["comments", "metadata", "case", "output", "definitions", "requests", "responses"] .refused raw
    let family := Setting.decode FamilyChanges.decode
    return {
      comments := ← optional bool fields levels "comments"
      metadata := ← optional bool fields levels "metadata"
      case := ← optional (word Case.words) fields levels "case"
      output := ← optional string fields levels "output"
      definitions := ← optional family fields levels "definitions"
      requests := ← optional family fields levels "requests"
      responses := ← optional family fields levels "responses" }

end Typeforge.Validator
