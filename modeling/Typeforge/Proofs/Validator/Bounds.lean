import Typeforge.Proofs.Decimal.Roundest
import Typeforge.Proofs.Json.Integers
import Typeforge.Proofs.Schema.Decoding
import Typeforge.Proofs.Validator.BigTexts

/-!
# The bounds of wide numbers

A bound is a double, so an integer that a document has for a bound is rounded to one, and on a wide format the digits of
the double are written. They are the digits of the roundest integer with that double (`decode_bounds`): those of the
document just if its integer is the roundest, as it is below `2 ^ 53`. A constant keeps all digits of an integer.

* `Limit.calls_eq`: the call that a bound makes;
* `Schema.Node.decode_limit`: the double that is read for a bound;
* `text_toDouble`, `nodeBound_toDouble`: how the double of an integer is written.
-/

namespace Typeforge.Validator

open Code Schema Json
open Decimal (Roundest Written exists_roundest roundest_small)

/-! ### Limits -/

/-- A bound that a node can set on a number. -/
inductive Limit where
  | minimum
  | maximum
  | exclusiveMinimum
  | exclusiveMaximum
deriving DecidableEq

namespace Limit

/-- The field that sets the bound. -/
def field : Limit → String
  | .minimum => "minimum"
  | .maximum => "maximum"
  | .exclusiveMinimum => "exclusiveMinimum"
  | .exclusiveMaximum => "exclusiveMaximum"

def action : Limit → Action
  | .minimum => .minValue
  | .maximum => .maxValue
  | .exclusiveMinimum => .gtValue
  | .exclusiveMaximum => .ltValue

def value? (a : Attributes) : Limit → Option Binary64
  | .minimum => a.minimum
  | .maximum => a.maximum
  | .exclusiveMinimum => a.exclusiveMinimum
  | .exclusiveMaximum => a.exclusiveMaximum

/-- The exclusive bound that counts in the place of an inclusive one. -/
def stronger? (a : Attributes) : Limit → Option Binary64
  | .minimum => a.exclusiveMinimum
  | .maximum => a.exclusiveMaximum
  | .exclusiveMinimum | .exclusiveMaximum => none

/-- What is called on the side of the bound. -/
def calls (a : Attributes) : Limit → List Expr
  | .minimum | .exclusiveMinimum => boundActions a a.exclusiveMinimum a.minimum .gtValue .minValue
  | .maximum | .exclusiveMaximum => boundActions a a.exclusiveMaximum a.maximum .ltValue .maxValue

variable {a : Attributes} {x : Binary64} {l : Limit}

/-- **A bound that no stronger one stands before makes one call.** -/
theorem calls_eq (hx : l.value? a = some x) (hstronger : l.stronger? a = none) :
    l.calls a = [l.action.apply [nodeBound x (isWide a.format)]] := by
  cases l with
  | minimum =>
    rw [calls, show a.exclusiveMinimum = none from hstronger, show a.minimum = some x from hx]
    rfl
  | maximum =>
    rw [calls, show a.exclusiveMaximum = none from hstronger, show a.maximum = some x from hx]
    rfl
  | exclusiveMinimum =>
    rw [calls, show a.exclusiveMinimum = some x from hx]
    rfl
  | exclusiveMaximum =>
    rw [calls, show a.exclusiveMaximum = some x from hx]
    rfl

end Limit

/-- The parts of the validator of a wide number, whatever kind it has. -/
def wideParts (a : Attributes) : List Expr :=
  numberBase a true ++ widthActions a ++ Limit.minimum.calls a ++ Limit.maximum.calls a

theorem numberValidator_wide {a : Attributes} (hwide : isWide a.format = true) (whole : Bool) :
    numberValidator a whole = pipe (wideParts a) := by
  have hbase : numberBase a whole = numberBase a true := by simp only [numberBase, hwide, if_true]
  rw [numberValidator, hbase]
  rfl

theorem base_wide {n : Node} {kind : Kind} (hnumeric : isNumeric n.toAttributes = true)
    (hwide : isWide n.format = true) (hkind : n.kind = some kind)
    (hconst : constantValidator? n.toAttributes kind = none) (metadata : Bool) :
    base metadata n = .closed (pipe (wideParts n.toAttributes)) := by
  have hbase : base metadata n = kindBase metadata n kind := by
    rw [base]
    simp only [hkind, hconst]
  rw [hbase]
  rcases kind_of_isNumeric hkind hnumeric hwide with rfl | rfl | rfl
  · rw [kindBase, numberValidator_wide hwide]
  · rw [kindBase, numberValidator_wide hwide]
  · rw [kindBase, if_pos hwide, numberValidator_wide hwide]

end Typeforge.Validator

namespace Typeforge.Schema

open Json Decoder
open Validator (Limit)

variable {fields : Keyed Raw} {levels : Nat} {name : String} {num : Number} {raw : Raw} {l : Limit}

theorem optional_double {x : Option Binary64} (h : Decoder.optional double fields levels name = some x)
    (hname : Keyed.get? fields name = some (.number num)) : x = some num.toDouble := by
  unfold Decoder.optional withDefault at h
  rw [hname] at h
  exact (Option.some.inj h).symm

theorem Attributes.decode_limit {a : Attributes} (h : Attributes.decode fields levels = some a)
    (hfield : Keyed.get? fields l.field = some (.number num)) : l.value? a = some num.toDouble := by
  unfold Attributes.decode at h
  iterate 8 obtain ⟨_, -, h⟩ := Option.bind_eq_some_iff.1 h
  obtain ⟨minimum, hminimum, h⟩ := Option.bind_eq_some_iff.1 h
  obtain ⟨maximum, hmaximum, h⟩ := Option.bind_eq_some_iff.1 h
  obtain ⟨exclusiveMinimum, hexclusiveMinimum, h⟩ := Option.bind_eq_some_iff.1 h
  obtain ⟨exclusiveMaximum, hexclusiveMaximum, h⟩ := Option.bind_eq_some_iff.1 h
  iterate 8 obtain ⟨_, -, h⟩ := Option.bind_eq_some_iff.1 h
  cases h
  cases l with
  | minimum => exact optional_double hminimum hfield
  | maximum => exact optional_double hmaximum hfield
  | exclusiveMinimum => exact optional_double hexclusiveMinimum hfield
  | exclusiveMaximum => exact optional_double hexclusiveMaximum hfield

/-- **A bound is the double of the number in its field.** -/
theorem Node.decode_limit {n : Node} (h : Node.decode levels raw = some n)
    (hfields : fields? Node.fieldNames .ignored raw = some fields)
    (hfield : Keyed.get? fields l.field = some (.number num)) : l.value? n.toAttributes = some num.toDouble := by
  cases levels with
  | zero => cases h
  | succ levels =>
    rw [Node.decode_succ, hfields, Option.bind_some] at h
    split at h
    · cases h
    simp only [Option.bind_eq_some_iff, Option.some.injEq] at h
    obtain ⟨a, ha, items, -, properties, -, additional, -, rfl⟩ := h
    exact Attributes.decode_limit ha hfield

end Typeforge.Schema

namespace Typeforge.Validator

open Code Schema Json Decoder
open Decimal (Roundest Written exists_roundest roundest_small)

/-! ### Integers as bounds -/

section Integers

variable {d : SignedDigits} {r : Nat}

/-- The double of an integer is written by the digits of the roundest one, with its sign. -/
theorem text_toDouble (h : Written (Binary64.ofNat d.magnitude) r) :
    d.toDouble.text = (⟨d.negative, r⟩ : SignedDigits).text := by
  refine String.toList_injective ?_
  rw [SignedDigits.toList_text, Binary64.text, Decimal.Form.write, String.toList_ofList]
  unfold SignedDigits.toDouble
  cases d.negative with
  | true => simp [Binary64.neg, h.positive, h.digits]
  | false => simp [h.positive, h.digits]

example : (⟨false, 18446744073709551615⟩ : SignedDigits).toDouble.text = "18446744073709552000" := by decide +kernel

theorem isWhole_toDouble (h : Written (Binary64.ofNat d.magnitude) r) : d.toDouble.isWhole = true := by
  unfold SignedDigits.toDouble
  split
  · exact h.whole
  · exact h.whole

theorem nodeBound_toDouble (h : Written (Binary64.ofNat d.magnitude) r) :
    nodeBound d.toDouble true = bigInt (⟨d.negative, r⟩ : SignedDigits).text := by
  simp only [nodeBound, isWhole_toDouble h, Bool.and_self, if_true, text_toDouble h]

end Integers

/-- How the bound of a node is written that is the integer `d` in the document. -/
structure WritesBound (n : Node) (l : Limit) (d : SignedDigits) (r : Nat) : Prop where
  /-- Of the numbers that have its double, -/
  roundest : Roundest d.magnitude r
  /-- the roundest is written, with the sign of the integer. -/
  call : l.calls n.toAttributes = [l.action.apply [bigInt (⟨d.negative, r⟩ : SignedDigits).text]]
  /-- The call stands in the validator, unless that is of a constant. -/
  validator : ∀ kind, n.kind = some kind → constantValidator? n.toAttributes kind = none →
    ∀ metadata, base metadata n = .closed (pipe (wideParts n.toAttributes))
  /-- The digits are those of the document just if it has the roundest integer, -/
  exact_iff : l.calls n.toAttributes = [l.action.apply [bigInt d.text]] ↔ Roundest d.magnitude d.magnitude
  /-- as a small one is. -/
  small : d.magnitude < 2 ^ 53 → Roundest d.magnitude d.magnitude
  /-- A constant has the digits of the document. -/
  constant : ¬ d.MinusZero → ∃ v, (Raw.parse? d.text).bind (value 0) = some v ∧
    numericConstant v n.format = bigInt d.text

theorem action_bigInt_injective {x : Action} {s t : String} (h : [x.apply [bigInt s]] = [x.apply [bigInt t]]) :
    s = t := by
  have htexts (t : String) : (x.apply [bigInt t]).bigInts = [t] := bigIntTexts_plain.read_action [bigInt t] x
  have hsame : (x.apply [bigInt s]).bigInts = (x.apply [bigInt t]).bigInts := by rw [List.singleton_inj.1 h]
  simpa [htexts] using hsame

/-- **A bound of a wide number is written by the digits of the roundest integer** with the double of the integer in the
document. It may stand in another node there, as when a composition hands it on to its only member. -/
theorem decode_bounds {levels : Nat} {raw bound : Raw} {n written : Node} {fields : Keyed Raw} {l : Limit}
    {d : SignedDigits} (hn : Node.decode levels raw = some written)
    (hfields : fields? Node.fieldNames .ignored raw = some fields)
    (hbound : Keyed.get? fields l.field = some bound) (htext : Raw.parse? d.text = some bound)
    (hfits : Fits d.value) (hsame : l.value? n.toAttributes = l.value? written.toAttributes)
    (hnumeric : isNumeric n.toAttributes = true) (hwide : isWide n.format = true)
    (hstronger : l.stronger? n.toAttributes = none) : ∃ r, WritesBound n l d r := by
  obtain ⟨num, hnum, hdouble, hwhole⟩ := SignedDigits.parse?_text hfits
  obtain rfl : Raw.number num = bound := Option.some.inj (hnum.symm.trans htext)
  have hmagnitude : d.magnitude < 2 ^ 64 := by
    have hvalue := d.natAbs_value
    unfold Fits at hfits
    omega
  obtain ⟨r, hroundest, hwritten⟩ := exists_roundest hmagnitude
  have hvalue : l.value? n.toAttributes = some d.toDouble := by
    rw [hsame, Node.decode_limit hn hfields hbound, hdouble]
  have hcall : l.calls n.toAttributes = [l.action.apply [bigInt (⟨d.negative, r⟩ : SignedDigits).text]] := by
    rw [Limit.calls_eq hvalue hstronger, hwide, nodeBound_toDouble hwritten]
  refine ⟨r, hroundest, hcall, fun kind hkind hconst => base_wide hnumeric hwide hkind hconst, ⟨?_, ?_⟩,
    roundest_small, ?_⟩
  · intro hsame
    have hdigits : r = d.magnitude := SignedDigits.magnitude_of_text (action_bigInt_injective (hcall.symm.trans hsame))
    exact hdigits ▸ hroundest
  · intro hself
    rw [hcall, hroundest.unique hself]
  · intro hzero
    refine ⟨.number (.whole d.value), ?_, ?_⟩
    · rw [htext, hwhole hzero]
      rfl
    · simp only [numericConstant, hwide, if_true, SignedDigits.text_eq_toString hzero]

/-- An integer of 64 bits with a bound that no double is. -/
def oddMinimum : Raw :=
  .object [("type", .string "integer"), ("format", .string "int64"),
    ("minimum", .number (.whole 9007199254740993))]

def oddNode : Node :=
  { kind := some .integer, format := some "int64", minimum := some (Number.whole 9007199254740993).toDouble }

theorem decode_oddMinimum : Node.decode 1 oddMinimum = some oddNode := by rfl

theorem parse?_odd : Raw.parse? (⟨false, 9007199254740993⟩ : SignedDigits).text =
    some (.number (.whole 9007199254740993)) :=
  parse?_toString (b := 9007199254740993) (by decide)

theorem oddNode_writes : ∃ r, WritesBound oddNode .minimum ⟨false, 9007199254740993⟩ r :=
  decode_bounds (l := .minimum) decode_oddMinimum (by rfl) (by rfl) parse?_odd (by decide) (by rfl) (by rfl) (by rfl)
    (by rfl)

/-- The bound has other digits than the document, and than a constant has. -/
theorem oddNode_rounded : Node.decode 1 oddMinimum = some oddNode ∧
    Raw.parse? "9007199254740993" = some (.number (.whole 9007199254740993)) ∧
    Limit.minimum.calls oddNode.toAttributes = [Action.minValue.apply [bigInt "9007199254740992"]] ∧
    Limit.minimum.calls oddNode.toAttributes ≠ [Action.minValue.apply [bigInt "9007199254740993"]] ∧
    numericConstant (.number (.whole 9007199254740993)) oddNode.format = bigInt "9007199254740993" := by
  have htext : (Number.whole 9007199254740993).toDouble.text = "9007199254740992" := by decide +kernel
  have hwhole : (Number.whole 9007199254740993).toDouble.isWhole = true := by decide +kernel
  have hcalls : Limit.minimum.calls oddNode.toAttributes = [Action.minValue.apply [bigInt "9007199254740992"]] := by
    rw [Limit.calls_eq (l := .minimum) (x := (Number.whole 9007199254740993).toDouble) rfl rfl]
    simp only [nodeBound, hwhole, htext]
    rfl
  refine ⟨decode_oddMinimum, parse?_odd, hcalls, fun hsame => ?_, by rfl⟩
  exact absurd (action_bigInt_injective (hcalls.symm.trans hsame)) (by decide)

end Typeforge.Validator
