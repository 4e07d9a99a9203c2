import Typeforge.Schema.Collapse
import Typeforge.Validator.Numeric
import Typeforge.Validator.Sketch

/-!
# The validator of a node

Which validator a node stands for, as a sketch that points at other declarations by their references. A
node is looked at after its composition is collapsed. Its base is a reference, the validator of its kind,
the union or intersection of its members, or the validator that accepts everything; what the node says
about its description, its access and its default comes after the base.
-/

namespace Typeforge.Schema

/-- The node that says what a node means: a composition without needless members. -/
def Node.settled (n : Node) : Node := if n.isComposition then n.collapse else n

theorem Node.size_settled_le (n : Node) : n.settled.size ≤ n.size := by
  unfold settled
  split
  · exact n.size_collapse_le
  · exact Nat.le_refl _

end Typeforge.Schema

namespace Typeforge.Validator

open Code Schema

section Leaves

variable (a : Attributes)

/-- Bounds on a length; two that agree are one. -/
def lengthActions (least greatest : Option Nat) : List Expr :=
  let count (n : Nat) : Expr := .literal (.number (Binary64.ofNat n))
  match least, greatest with
  | some m, some n =>
    if m = n then [Action.length.apply [count m]]
    else [Action.minLength.apply [count m], Action.maxLength.apply [count n]]
  | some m, none => [Action.minLength.apply [count m]]
  | none, some n => [Action.maxLength.apply [count n]]
  | none, none => []

/-- The bounds that the format of a number sets. -/
def widthActions : List Expr :=
  match a.format.bind Width.ofFormat? with
  | some w =>
    [Action.minValue.apply [widthBound w.least (isWide a.format), .string w.tooSmall],
      Action.maxValue.apply [widthBound w.greatest (isWide a.format), .string w.tooGreat]]
  | none => []

/-- One side of a range; an exclusive bound goes before an inclusive one. -/
def boundActions (exclusive inclusive : Option Binary64) (strict loose : Action) : List Expr :=
  match exclusive, inclusive with
  | some x, _ => [strict.apply [nodeBound x (isWide a.format)]]
  | none, some x => [loose.apply [nodeBound x (isWide a.format)]]
  | none, none => []

/-- What a number is before its bounds: a wide one may come as a number, a text or a big integer. -/
def numberBase (whole : Bool) : List Expr :=
  if isWide a.format then
    [Maker.union.apply [.array [Maker.number.apply [], Maker.string.apply [], Maker.bigInt.apply []]],
      Action.transform.apply [.arrow [⟨"x", none, false⟩] (.call (.ident "BigInt") [.ident "x"])]]
  else if whole then [Maker.number.apply [], Action.integer.apply []]
  else [Maker.number.apply []]

/-- The validator of a number, or of an integer when `whole` is set. -/
def numberValidator (whole : Bool) : Expr :=
  pipe (numberBase a whole ++ widthActions a
    ++ boundActions a a.exclusiveMinimum a.minimum .gtValue .minValue
    ++ boundActions a a.exclusiveMaximum a.maximum .ltValue .maxValue)

/-- The pattern of a text, unless it is empty. -/
def patternActions : List Expr :=
  match a.pattern with
  | some p => if p.isEmpty then [] else [Action.regex.apply [.regex p]]
  | none => []

def stringValidator : Expr :=
  pipe (Maker.string.apply [] :: ((a.format.bind Action.ofFormat?).map fun f => f.apply []).toList
    ++ lengthActions a.minLength a.maxLength ++ patternActions a)

def literalValidator (e : Expr) : Expr := Maker.literal.apply [e]

/-- The validator of the node's constant, if its kind has use for it. It stands alone: other bounds do not
count. -/
def constantValidator? (kind : Kind) : Option Expr :=
  match a.const, kind with
  | some (.bool b), .boolean => some (literalValidator (.literal (.bool b)))
  | some .null, .integer | some .null, .number => none
  | some v, .integer | some v, .number => some (literalValidator (numericConstant v a.format))
  | some v, .string =>
    match isWide a.format, v with
    | true, .null => none
    | true, v => some (literalValidator (numericConstant v a.format))
    | false, .string s => some (literalValidator (.string s))
    | false, _ => none
  | some (.array vs), .array | some (.array vs), .tuple =>
    some (Maker.tuple.apply [.array (vs.map fun v => literalValidator (.ofValue v))])
  | _, _ => none

/-- The node is a number, if only by its format. -/
def isNumeric : Bool :=
  a.kind = some .integer || a.kind = some .number || (a.kind = some .string && isWide a.format)

def defaultExpr (v : Json.Value) : Expr := if isNumeric a then numericConstant v a.format else .ofValue v

/-- The text that a member of an enumeration stands for. -/
def memberText? : Option String :=
  match a.kind, a.const with
  | some .string, some (.string s) => some s
  | _, _ => none

/-- The member of an enumeration stands for null. -/
def isNullMember : Bool :=
  match a.kind, a.const with
  | some .null, _ => true
  | some .string, some (.string _) => false
  | _, some .null => true
  | _, _ => false

/-- The validator of the members of an enumeration that are texts. Without such a member it accepts
everything. -/
def enumerationValidator (members : List Attributes) : Expr :=
  match members.filterMap memberText? with
  | [] => unknown
  | texts =>
    let choice := Maker.picklist.apply [.array (texts.map .string)]
    if members.any isNullMember then Maker.nullable.apply [choice] else choice

end Leaves

def metadataActions (a : Attributes) : List (Sketch String) :=
  match a.description with
  | some d => [.closed (Action.metadata.apply [.object [(.ident "description", .string d)]])]
  | none => []

/-- The base with what comes after it. A default makes a validator optional, and so does a place that may
be left out. -/
def finish (metadata optional : Bool) (a : Attributes) (base : Sketch String) : List (Sketch String) :=
  let parts := base :: (if metadata then metadataActions a else [])
    ++ (if a.accessScope = some .read then [.closed (Action.readonly.apply [])] else [])
  match a.default with
  | some v => [.make .optional [.pipe parts, .closed (defaultExpr a v)]]
  | none => if optional then [.make .optional [.pipe parts]] else parts

section Nodes

variable (metadata : Bool)

mutual

/-- A validator and its refinements for a node, in a place that may be left out when `optional` is set. -/
def outline (n : Node) (optional : Bool) : List (Sketch String) :=
  finish metadata optional n.settled.toAttributes (base n.settled)
termination_by (n.size, 4)
decreasing_by
  have := n.size_settled_le
  rcases Nat.lt_or_eq_of_le this with h | h
  · exact Prod.Lex.left _ _ h
  · rw [h]; exact Prod.Lex.right _ (by decide)

def members (ns : List Node) : List (Sketch String) :=
  match ns with
  | [] => []
  | n :: ns => .pipe (outline n false) :: members ns
termination_by (Node.sizes ns, 5)
decreasing_by
  · simp only [Node.sizes]
    have := n.size_pos
    rcases Nat.lt_or_eq_of_le (Nat.le_add_right n.size (Node.sizes ns)) with h | h
    · exact Prod.Lex.left _ _ h
    · rw [← h]; exact Prod.Lex.right _ (by decide)
  · simp only [Node.sizes]
    have := n.size_pos
    exact Prod.Lex.left _ _ (by omega)

/-- The validators of properties, of which only the required ones may not be left out. -/
def propertyMembers (required : String → Bool) (ps : List (String × Node)) : List (Key × Sketch String) :=
  match ps with
  | [] => []
  | (name, n) :: ps =>
    (.ofName name, .pipe (outline n (!required name))) :: propertyMembers required ps
termination_by (Node.fieldSizes ps, 5)
decreasing_by
  · simp only [Node.fieldSizes]
    have := n.size_pos
    rcases Nat.lt_or_eq_of_le (Nat.le_add_right n.size (Node.fieldSizes ps)) with h | h
    · exact Prod.Lex.left _ _ h
    · rw [← h]; exact Prod.Lex.right _ (by decide)
  · simp only [Node.fieldSizes]
    have := n.size_pos
    exact Prod.Lex.left _ _ (by omega)

/-- The validator of an array: of its one item schema, if there is just one. -/
def arrayBase (n : Node) : Sketch String :=
  let element : Sketch String :=
    if n.itemList.isEmpty then .closed unknown
    else match members n.deduplicate.itemList with
      | [only] => only
      | several => .dropping several unknown
  .pipe (.make .array [element] :: (lengthActions n.minItems n.maxItems).map .closed)
termination_by (n.size, 0)
decreasing_by
  exact Prod.Lex.left _ _ (Nat.lt_of_lt_of_le n.deduplicate.sizes_itemList_lt n.size_deduplicate_le)

/-- The validator of an object: a record when it has no properties but others that are objects. -/
def objectBase (n : Node) : Sketch String :=
  match n.propertyList, _h : n.additional with
  | [], some additional =>
    if additional.kind = some .object then
      .make .record [.closed (Maker.string.apply []), .pipe (outline additional false)]
    else .make .object [.object []]
  | _, _ => .make .object [.object (propertyMembers n.isRequired n.propertyList)]
termination_by (n.size, 0)
decreasing_by
  · exact Prod.Lex.left _ _ (Node.size_additional_lt _h)
  · exact Prod.Lex.left _ _ n.fieldSizes_propertyList_lt

def tupleBase (n : Node) : Sketch String :=
  match n.items with
  | none => .closed unknown
  | some _ => .make .tuple [.list (members n.itemList)]
termination_by (n.size, 0)
decreasing_by exact Prod.Lex.left _ _ n.sizes_itemList_lt

/-- The validator of a node of some kind that is no constant. -/
def kindBase (n : Node) (kind : Kind) : Sketch String :=
  match kind with
  | .array => arrayBase n
  | .boolean => .closed (Maker.boolean.apply [])
  | .enumeration => .closed (enumerationValidator (n.itemList.map Node.toAttributes))
  | .integer => .closed (numberValidator n.toAttributes true)
  | .number => .closed (numberValidator n.toAttributes false)
  | .never => .closed (Maker.never.apply [])
  | .null => .closed (Maker.null.apply [])
  | .object => objectBase n
  | .string =>
    .closed (if isWide n.format then numberValidator n.toAttributes true else stringValidator n.toAttributes)
  | .tuple => tupleBase n
  | .undefined => .closed (Maker.undefined.apply [])
  | .unknown => .closed unknown
  | .void => .closed (Maker.void.apply [])
termination_by (n.size, 2)

/-- The validator of a node before its refinements. -/
def base (n : Node) : Sketch String :=
  match n.reference, n.kind with
  | some r, none => .use r
  | _, some kind =>
    match constantValidator? n.toAttributes kind with
    | some e => .closed e
    | none => kindBase n kind
  | none, none =>
    if n.isComposition then
      .make (if n.operator = some .and then .intersect else .union) [.list (members n.itemList)]
    else .closed unknown
termination_by (n.size, 3)
decreasing_by
  · exact Prod.Lex.right _ (by decide)
  · exact Prod.Lex.left _ _ n.sizes_itemList_lt

end

end Nodes

end Typeforge.Validator
