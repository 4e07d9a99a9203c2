import Typeforge.Options.Family
import Typeforge.Text.Listing

/-!
# Settings in a listing

How a setting of a naming family and a set of shorthands are shown to whoever looks for the reason of a name.
-/

namespace Typeforge.Options

open Naming

def wrapped (wrapper value : String) : String := wrapper ++ "(" ++ value ++ ")"

/-- A value that may be absent. -/
def optionListing : Option String → String
  | none => "None"
  | some value => wrapped "Some" value

def flagListing (b : Bool) : String := if b then "true" else "false"

def caseListing : Case → String
  | .camel => "CamelCase"
  | .pascal => "PascalCase"
  | .snake => "SnakeCase"
  | .screamingSnake => "ScreamingSnakeCase"
  | .preserve => "Preserve"

/-- A function has nothing to show. -/
def functionListing : String := wrapped "Function" ".."

def ruleListing : Rule → String
  | .template t => wrapped "Template" (Text.listed t)
  | .function _ => functionListing

/-- A record by the names and values of its fields. -/
def recordListing (name : String) (fields : List (String × String)) : String :=
  name ++ " \x7b " ++ Text.joinWith ", " (fields.map fun f => f.1 ++ ": " ++ f.2) ++ " \x7d"

def FamilyChanges.listing (c : FamilyChanges) : String :=
  recordListing "NamingPatch" [
    ("enabled", optionListing (c.enabled.map flagListing)),
    ("case", optionListing (c.case.map caseListing)),
    ("name", optionListing (c.rule.map ruleListing))]

def Setting.listing : Setting FamilyChanges → String
  | .flag b => wrapped "Bool" (flagListing b)
  | .number x => wrapped "Number" (Decimal.listing.write x)
  | .text s => wrapped "String" (Text.listed s)
  | .function _ => functionListing
  | .record r => wrapped "Object" r.listing

/-- Which shapes have a meaning. -/
def Shorthands.listing {σ π : Type} (s : Shorthands σ π) : String :=
  recordListing "Mappers" [
    ("boolean", flagListing s.flag.isSome),
    ("number", flagListing s.number.isSome),
    ("string", flagListing s.text.isSome),
    ("function", flagListing s.function.isSome),
    ("object", flagListing s.record.isSome)]

end Typeforge.Options
