import Typeforge.Proofs.Validator.Readings
import Typeforge.Validator.Declaration

/-!
# The texts that an expression reads as big integers

`Expr.bigInts` lists the texts in the calls `BigInt("…")` of an expression, wherever they stand. In the validator of a
node they are the bounds of a number, which are integers, or come from its constant.
-/

namespace Typeforge.Code

open Validator (Use Maker Action)

/-- The text in `BigInt("…")`. -/
def bigIntText? (callee : Expr) (args : List Expr) : Option String :=
  match callee, args with
  | .ident name, [.literal (.string s)] => if name = "BigInt" then some s else none
  | _, _ => none

def bigIntTexts : Reading String where
  name _ := []
  call callee args ofCallee ofArgs := (bigIntText? callee args).toList ++ ofCallee ++ ofArgs
  arrow _ ofBody := ofBody

/-- The texts that the expression reads as big integers, from left to right. -/
def Expr.bigInts (e : Expr) : List String := e.read bigIntTexts

theorem bigIntTexts_plain : bigIntTexts.Plain where
  library := fun _ _ _ _ => rfl
  conversion := rfl

theorem bigInts_use (u : Use) : u.toExpr.bigInts = [] := by
  obtain ⟨name, _ | _⟩ := u
  · rfl
  · rfl

@[simp] theorem bigInts_bigInt (s : String) : (Validator.bigInt s).bigInts = [s] := rfl

@[simp] theorem bigInts_maker {m : Maker} (h : m ≠ .lazy) (args : List Expr) :
    (m.apply args).bigInts = args.flatMap Expr.bigInts :=
  bigIntTexts_plain.read_maker args h

@[simp] theorem bigInts_action (a : Action) (args : List Expr) : (a.apply args).bigInts = args.flatMap Expr.bigInts :=
  bigIntTexts_plain.read_action args a

@[simp] theorem bigInts_unknown : Validator.unknown.bigInts = [] := bigIntTexts_plain.read_unknown

end Typeforge.Code

namespace Typeforge.Validator

open Code Decimal Json Schema

section Leaves

variable {a : Attributes} {s t : String} {format : Option String} {v : Value}

theorem mem_bigInts_numericConstant : s ∈ (numericConstant v format).bigInts ↔ isWide format = true ∧
    ((∃ n : Int, v = .number (.whole n) ∧ s = toString n) ∨ ∃ t, v = .string t ∧ s = dropMark t) := by
  have htext (t : String) : s ∈ (bigInt t).read bigIntTexts ↔ s = t := List.mem_singleton
  simp only [Expr.bigInts, mem_read_numericConstant, htext]

theorem isInteger_of_mem_numberValidator {whole : Bool} (hs : s ∈ (numberValidator a whole).bigInts) :
    isInteger s = true := by
  obtain ⟨t, ht, hs⟩ := mem_read_numberValidator bigIntTexts_plain hs
  obtain rfl : s = t := List.mem_singleton.1 hs
  exact ht

/-- Whether fractions are refused makes no difference to the bounds. -/
theorem bigInts_numberValidator (whole : Bool) :
    (numberValidator a whole).bigInts = (numberValidator a true).bigInts :=
  read_numberValidator bigIntTexts_plain whole

@[simp] theorem bigInts_stringValidator : (stringValidator a).bigInts = [] := read_stringValidator bigIntTexts_plain

@[simp] theorem bigInts_enumerationValidator (members : List Attributes) :
    (enumerationValidator members).bigInts = [] :=
  read_enumerationValidator bigIntTexts_plain members

@[simp] theorem bigInts_literalValidator (e : Expr) : (literalValidator e).bigInts = e.bigInts :=
  read_literalValidator bigIntTexts_plain e

theorem kind_of_isNumeric {kind : Kind} (hk : a.kind = some kind) (hnumeric : isNumeric a = true)
    (hwide : isWide a.format = true) : kind = .integer ∨ kind = .number ∨ kind = .string := by
  simpa [isNumeric, hk, hwide, or_assoc] using hnumeric

theorem constantValidator_of_text {kind : Kind} (hk : a.kind = some kind) (hnumeric : isNumeric a = true)
    (hwide : isWide a.format = true) (hconst : a.const = some (.string t)) :
    constantValidator? a kind = some (literalValidator (bigInt (dropMark t))) := by
  rcases kind_of_isNumeric hk hnumeric hwide with rfl | rfl | rfl
  · simp [constantValidator?, hconst, numericConstant, hwide]
  · simp [constantValidator?, hconst, numericConstant, hwide]
  · simp [constantValidator?, hconst, numericConstant, hwide]

end Leaves

end Typeforge.Validator
