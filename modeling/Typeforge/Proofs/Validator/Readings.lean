import Typeforge.Proofs.Decimal.Whole
import Typeforge.Proofs.Validator.Sketch
import Typeforge.Validator.Outline

/-!
# What is read off an expression

A `Reading` says what is read off the names, the calls and the functions in an expression, and `Expr.read` collects it
from left to right. Where a call of the library stands for its arguments (`Reading.Plain`), what is read off the
validator of a node comes from the big integers in it: bounds are written as integers (`mem_read_numberValidator`), and
so is a constant that is a whole number. A constant that is a text is written as it is, but for a mark at its end
(`mem_read_numericConstant`). What is read off the expression for a sketch is collected from the sketch (`read_toExpr`).
-/

namespace Typeforge.Code

open Validator (Maker Action namespaceName)

variable {α : Type}

/-- What is read off the parts of an expression. -/
structure Reading (α : Type) where
  name : String → List α
  /-- Of a call, given what is read off its function and off its arguments. -/
  call : Expr → List Expr → List α → List α → List α
  /-- Of a function, given what is read off its body. -/
  arrow : List Param → List α → List α

section Read

variable (R : Reading α)

mutual

/-- What is read off the expression, from left to right. -/
def Expr.read : Expr → List α
  | .ident name => R.name name
  | .literal _ => []
  | .call callee args => R.call callee args callee.read (readAll args)
  | .arrow params body => R.arrow params body.read
  | .object properties => readProperties properties
  | .member receiver _ => receiver.read
  | .array items => readAll items
  | .regex _ => []

def readAll : List Expr → List α
  | [] => []
  | e :: es => e.read ++ readAll es

def readProperties : List (Key × Expr) → List α
  | [] => []
  | (_, e) :: ps => e.read ++ readProperties ps

end

@[simp] theorem readAll_eq (es : List Expr) : readAll R es = es.flatMap (Expr.read R) := by
  induction es with
  | nil => rfl
  | cons e es ih => rw [readAll, ih, List.flatMap_cons]

@[simp] theorem readProperties_eq (ps : List (Key × Expr)) : readProperties R ps = ps.flatMap fun p => p.2.read R := by
  induction ps with
  | nil => rfl
  | cons p ps ih => rw [readProperties, ih, List.flatMap_cons]

@[simp] theorem read_literal (l : Literal) : (Expr.literal l).read R = [] := rfl

@[simp] theorem read_string (s : String) : (Expr.string s).read R = [] := rfl

@[simp] theorem read_regex (p : String) : (Expr.regex p).read R = [] := rfl

@[simp] theorem read_array (es : List Expr) : (Expr.array es).read R = es.flatMap (Expr.read R) := readAll_eq R es

@[simp] theorem read_object (ps : List (Key × Expr)) : (Expr.object ps).read R = ps.flatMap fun p => p.2.read R :=
  readProperties_eq R ps

mutual

@[simp] theorem read_ofValue : ∀ v : Json.Value, (Expr.ofValue v).read R = []
  | .null | .bool _ | .number _ | .string _ => rfl
  | .array items => readAll_exprsOfValues items
  | .object fields => readProperties_propertiesOfFields fields

theorem readAll_exprsOfValues : ∀ vs : List Json.Value, readAll R (exprsOfValues vs) = []
  | [] => rfl
  | v :: vs => by rw [exprsOfValues, readAll, read_ofValue v, readAll_exprsOfValues vs, List.append_nil]

theorem readProperties_propertiesOfFields :
    ∀ fs : List (String × Json.Value), readProperties R (propertiesOfFields fs) = []
  | [] => rfl
  | (_, v) :: fs => by
    rw [propertiesOfFields, readProperties, read_ofValue v, readProperties_propertiesOfFields fs, List.append_nil]

end

end Read

/-! ### Calls of the library -/

/-- A call of the library stands for its arguments unless it is lazy, and nothing is read off the conversion to big
integers. -/
structure Reading.Plain (R : Reading α) : Prop where
  library : ∀ function args ofArgs, function ≠ Maker.lazy.name →
    R.call (.member (.ident namespaceName) function) args (R.name namespaceName) ofArgs = ofArgs
  conversion : (Expr.arrow [⟨"x", none, false⟩] (.call (.ident "BigInt") [.ident "x"])).read R = []

namespace Reading.Plain

variable {R : Reading α} (hR : R.Plain) (args : List Expr)

include hR

theorem read_maker {m : Maker} (h : m ≠ .lazy) : (m.apply args).read R = args.flatMap (Expr.read R) := by
  have hname : m.name ≠ Maker.lazy.name := by
    cases m <;> first | decide | exact absurd rfl h
  exact (hR.library _ _ _ hname).trans (readAll_eq R args)

theorem read_action (a : Action) : (a.apply args).read R = args.flatMap (Expr.read R) := by
  have hname : a.name ≠ Maker.lazy.name := by cases a <;> decide
  exact (hR.library _ _ _ hname).trans (readAll_eq R args)

theorem read_unknown : Validator.unknown.read R = [] := hR.read_maker [] (by decide)

theorem read_pipe (es : List Expr) : (Validator.pipe es).read R = es.flatMap (Expr.read R) := by
  match es with
  | [] => exact hR.read_unknown
  | [e] => simp [Validator.pipe]
  | _ :: _ :: _ => exact hR.read_action _ _

end Reading.Plain

end Typeforge.Code

namespace Typeforge.Validator

open Code Decimal Json Schema

/-! ### Leaves -/

section Leaves

variable {α : Type} {R : Reading α} {x : α} {a : Attributes} {format : Option String} {v : Value}

/-- A numeric constant is written as a big integer where the format is wide and it is a whole number or a text. -/
theorem mem_read_numericConstant : x ∈ (numericConstant v format).read R ↔ isWide format = true ∧
    ((∃ n : Int, v = .number (.whole n) ∧ x ∈ (bigInt (toString n)).read R) ∨
      ∃ t, v = .string t ∧ x ∈ (bigInt (dropMark t)).read R) := by
  unfold numericConstant
  cases hwide : isWide format with
  | false =>
    split <;> simp
  | true =>
    split
    · simp
    · simp
    · rename_i hnumber hstring
      rw [read_ofValue]
      refine ⟨fun hx => absurd hx List.not_mem_nil, ?_⟩
      rintro ⟨-, ⟨n, hv, -⟩ | ⟨t, hv, -⟩⟩
      · exact (hnumber n hv).elim
      · exact (hstring t hv).elim

/-- The default of a number is a numeric constant, and off other defaults nothing is read. -/
theorem mem_read_defaultExpr (hx : x ∈ (defaultExpr a v).read R) :
    isNumeric a = true ∧ x ∈ (numericConstant v a.format).read R := by
  unfold defaultExpr at hx
  split at hx
  · rename_i hnumeric
    exact ⟨hnumeric, hx⟩
  · rw [read_ofValue] at hx
    exact absurd hx List.not_mem_nil

variable (hR : R.Plain)

include hR

theorem mem_read_widthActions {e : Expr} (he : e ∈ widthActions a) (hx : x ∈ e.read R) :
    ∃ s, isInteger s = true ∧ x ∈ (bigInt s).read R := by
  have hbound (n : Int) (hx : x ∈ (widthBound n (isWide a.format)).read R) :
      ∃ s, isInteger s = true ∧ x ∈ (bigInt s).read R := by
    unfold widthBound at hx
    split at hx
    · exact ⟨_, isInteger_toString n, hx⟩
    · simp at hx
  unfold widthActions at he
  split at he
  · rename_i w _
    simp only [List.mem_cons, List.not_mem_nil, or_false] at he
    rcases he with rfl | rfl
    · exact hbound w.least (by simpa [hR.read_action] using hx)
    · exact hbound w.greatest (by simpa [hR.read_action] using hx)
  · exact absurd he List.not_mem_nil

theorem mem_read_boundActions {exclusive inclusive : Option Binary64} {strict loose : Action} {e : Expr}
    (he : e ∈ boundActions a exclusive inclusive strict loose) (hx : x ∈ e.read R) :
    ∃ s, isInteger s = true ∧ x ∈ (bigInt s).read R := by
  have hbound (y : Binary64) (hx : x ∈ (nodeBound y (isWide a.format)).read R) :
      ∃ s, isInteger s = true ∧ x ∈ (bigInt s).read R := by
    unfold nodeBound at hx
    split at hx
    · rename_i hwhole
      exact ⟨_, isInteger_text (Bool.and_eq_true_iff.1 hwhole).2, hx⟩
    · simp at hx
  unfold boundActions at he
  split at he
  · obtain rfl := List.mem_singleton.1 he
    exact hbound _ (by simpa [hR.read_action] using hx)
  · obtain rfl := List.mem_singleton.1 he
    exact hbound _ (by simpa [hR.read_action] using hx)
  · exact absurd he List.not_mem_nil

theorem read_numberBase {whole : Bool} {e : Expr} (he : e ∈ numberBase a whole) : e.read R = [] := by
  unfold numberBase at he
  split at he
  · simp only [List.mem_cons, List.not_mem_nil, or_false] at he
    rcases he with rfl | rfl
    · simp [hR.read_maker]
    · simp [hR.read_action, hR.conversion]
  · split at he <;> simp only [List.mem_cons, List.not_mem_nil, or_false] at he
    · rcases he with rfl | rfl
      · simp [hR.read_maker]
      · simp [hR.read_action]
    · simp [he, hR.read_maker]

theorem read_numberValidator (whole : Bool) :
    (numberValidator a whole).read R = (numberValidator a true).read R := by
  have hbase (whole : Bool) : (numberBase a whole).flatMap (Expr.read R) = [] :=
    List.flatMap_eq_nil_iff.2 fun _ he => read_numberBase hR he
  simp only [numberValidator, hR.read_pipe, List.flatMap_append, hbase]

/-- **All bounds of a number are written as integers.** -/
theorem mem_read_numberValidator {whole : Bool} (hx : x ∈ (numberValidator a whole).read R) :
    ∃ s, isInteger s = true ∧ x ∈ (bigInt s).read R := by
  rw [numberValidator, hR.read_pipe, List.mem_flatMap] at hx
  obtain ⟨e, he, hx⟩ := hx
  simp only [List.mem_append] at he
  rcases he with ((he | he) | he) | he
  · rw [read_numberBase hR he] at hx
    exact absurd hx List.not_mem_nil
  · exact mem_read_widthActions hR he hx
  · exact mem_read_boundActions hR he hx
  · exact mem_read_boundActions hR he hx

theorem read_lengthActions {least greatest : Option Nat} {e : Expr} (he : e ∈ lengthActions least greatest) :
    e.read R = [] := by
  have hcount (f : Action) (m : Nat) : (f.apply [.literal (.number (Binary64.ofNat m))]).read R = [] := by
    simp [hR.read_action]
  unfold lengthActions at he
  split at he
  · split at he
    · exact List.mem_singleton.1 he ▸ hcount _ _
    · simp only [List.mem_cons, List.not_mem_nil, or_false] at he
      rcases he with rfl | rfl
      · exact hcount _ _
      · exact hcount _ _
  · exact List.mem_singleton.1 he ▸ hcount _ _
  · exact List.mem_singleton.1 he ▸ hcount _ _
  · exact absurd he List.not_mem_nil

theorem read_stringValidator : (stringValidator a).read R = [] := by
  rw [stringValidator, hR.read_pipe, List.flatMap_eq_nil_iff]
  intro e he
  simp only [List.mem_append, List.mem_cons] at he
  rcases he with ((rfl | he) | he) | he
  · simp [hR.read_maker]
  · obtain ⟨f, -, rfl⟩ := Option.map_eq_some_iff.1 (Option.mem_toList.1 he)
    exact hR.read_action [] f
  · exact read_lengthActions hR he
  · unfold patternActions at he
    split at he
    · split at he
      · exact absurd he List.not_mem_nil
      · rw [List.mem_singleton.1 he]
        simp [hR.read_action]
    · exact absurd he List.not_mem_nil

theorem read_literalValidator (e : Expr) : (literalValidator e).read R = e.read R := by
  simp [literalValidator, hR.read_maker]

theorem read_enumerationValidator (members : List Attributes) : (enumerationValidator members).read R = [] := by
  unfold enumerationValidator
  have hchoice (texts : List String) : (Maker.picklist.apply [.array (texts.map Expr.string)]).read R = [] := by
    simp [hR.read_maker]
  split
  · exact hR.read_unknown
  · simp only
    split
    · rw [hR.read_maker _ (by decide), List.flatMap_singleton, hchoice]
    · exact hchoice _

/-- Only the constant of a number is written as a big integer. -/
theorem mem_read_constantValidator {kind : Kind} {e : Expr} (hk : a.kind = some kind)
    (h : constantValidator? a kind = some e) (hx : x ∈ e.read R) :
    isNumeric a = true ∧ ∃ v, a.const = some v ∧ x ∈ (numericConstant v a.format).read R := by
  have hnot {e : Expr} (hnone : e.read R = []) : x ∉ e.read R := hnone ▸ List.not_mem_nil
  have htuple (vs : List Value) :
      (Maker.tuple.apply [.array (vs.map fun v => literalValidator (.ofValue v))]).read R = [] := by
    simp [hR.read_maker, read_literalValidator hR]
  unfold constantValidator? at h
  split at h
  case h_1 =>
    cases h
    exact absurd hx (hnot (read_literalValidator hR _))
  case h_2 | h_3 | h_9 => cases h
  case h_4 | h_5 =>
    rename_i v _ hv
    cases h
    exact ⟨by simp [isNumeric, hk], v, hv, read_literalValidator hR _ ▸ hx⟩
  case h_6 =>
    rename_i hv
    -- a text of a wide format is a number
    split at h
    · cases h
    · rename_i hwide _
      cases h
      exact ⟨by simp [isNumeric, hk, hwide], _, hv, read_literalValidator hR _ ▸ hx⟩
    · cases h
      exact absurd hx (hnot (read_literalValidator hR _))
    · cases h
  case h_7 | h_8 =>
    cases h
    exact absurd hx (hnot (htuple _))

end Leaves

/-! ### Sketches -/

namespace Sketch

variable {ρ α : Type} {R : Reading α} {C : Collection ρ α}

theorem readAll_toExprs {use : ρ → Expr} {ss : List (Sketch ρ)}
    (h : ∀ s ∈ ss, (s.toExpr use).read R = s.collect C) :
    (toExprs use ss).flatMap (Expr.read R) = collectAll C ss := by
  rw [toExprs_eq, List.flatMap_map, collectAll_eq]
  exact List.flatMap_congr h

/-- **What is read off the expression for a sketch is collected from the sketch**, if this is so for its expressions and
for what it points at, and nothing is made lazily. -/
theorem read_toExpr (hR : R.Plain) (hC : C.looked = false) {use : ρ → Expr} {s : Sketch ρ}
    (hs : s.Meets { closed := fun e => e.read R = C.closed e, use := fun r => (use r).read R = C.use r,
                    make := fun function _ => function ≠ .lazy }) :
    (s.toExpr use).read R = s.collect C := by
  induction s using Sketch.induction with
  | closed e => exact hs
  | use r => exact hs
  | make function args ih =>
    rw [toExpr, hR.read_maker _ hs.1, collect]
    exact readAll_toExprs fun s hmem => ih s hmem (allMeet_iff.1 hs.2 s hmem)
  | refine function args ih =>
    rw [toExpr, hR.read_action, collect]
    exact readAll_toExprs fun s hmem => ih s hmem (allMeet_iff.1 hs s hmem)
  | list items ih =>
    rw [toExpr, read_array, collect]
    exact readAll_toExprs fun s hmem => ih s hmem (allMeet_iff.1 hs s hmem)
  | object fields ih =>
    rw [toExpr, read_object, toProperties_eq, List.flatMap_map, collect, collectFields_eq]
    exact List.flatMap_congr fun f hmem => ih f hmem (fieldsMeet_iff.1 hs f hmem)
  | dropping looked kept ih =>
    rw [toExpr, collect, hC]
    exact hs.2

end Sketch

end Typeforge.Validator
