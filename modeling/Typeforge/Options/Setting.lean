import Typeforge.Json.Decoder

/-!
# Settings

An option may be set in several shapes: by a flag, a number, a text, a function, or a record that names
single fields of the option. `Shorthands` say what the short shapes mean as such a record, and `settle`
applies the record to the option as it stands. A field that the record leaves out, or leaves blank, keeps
its value; `false` and zero are no blanks.
-/

namespace Typeforge.Options

/-- One option as it is set, where `π` is the record of changes. -/
inductive Setting (π : Type) where
  | flag (b : Bool)
  | number (x : Binary64)
  | text (s : String)
  /-- A function cannot be written down, only given by a program. -/
  | function (f : String → String)
  | record (changes : π)

/-- Options `σ` to which a record of changes `π` is applied. -/
class Amendable (σ : Type) (π : outParam Type) where
  amend : σ → π → σ

/-- What each shape means as a record of changes. A shape without a meaning changes nothing, except that a
record means itself. -/
structure Shorthands (σ π : Type) where
  flag : Option (Bool → π) := none
  number : Option (Binary64 → π) := none
  text : Option (String → π) := none
  function : Option ((String → String) → π) := none
  /-- Sees the option as it stands, too. -/
  record : Option (π → σ → π) := none

/-- The record of changes that a setting means. -/
def Setting.changes? {σ π : Type} (setting : Setting π) (shorthands : Shorthands σ π) (current : σ) : Option π :=
  match setting with
  | .flag b => shorthands.flag.map (· b)
  | .number x => shorthands.number.map (· x)
  | .text s => shorthands.text.map (· s)
  | .function f => shorthands.function.map (· f)
  | .record r => some (match shorthands.record with
    | some meaning => meaning r current
    | none => r)

/-- The option after a setting, which may be absent. -/
def settle {σ π : Type} [Amendable σ π] (current : σ) (setting : Option (Setting π))
    (shorthands : Shorthands σ π) : σ :=
  match setting.bind fun s => s.changes? shorthands current with
  | some changes => Amendable.amend current changes
  | none => current

/-- The value of a field after a change, which may be absent. -/
def changed {α : Type} (current : α) (change : Option α) : α := change.getD current

/-- The value of a field after a change, which may be absent or blank. -/
def changedUnless {α : Type} (blank : α → Bool) (current : α) (change : Option α) : α :=
  match change with
  | some value => if blank value then current else value
  | none => current

open Json Decoder in
/-- A setting as it is written: a flag, a number, a text, or else a record. -/
def Setting.decode {π : Type} (record : Decoder π) : Decoder (Setting π)
  | _, .bool b => some (.flag b)
  | _, .number n => some (.number n.toDouble)
  | _, .string s => some (.text s)
  | levels, raw => (record levels raw).map .record

end Typeforge.Options
