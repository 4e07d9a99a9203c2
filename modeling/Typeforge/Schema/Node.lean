import Typeforge.Json.Value

/-!
# Schema nodes

A node describes a set of values. It has a kind, or it refers to another node, or it composes its items;
a node with none of the three admits every value. `Attributes` are the parts of a node that hold no other
node, `Node` adds the items, the properties and the schema of further properties.
-/

namespace Typeforge.Schema

inductive Kind where
  | array
  | boolean
  /-- One of the literals in the items. -/
  | enumeration
  | integer
  | never
  | null
  | number
  | object
  | string
  /-- One schema for each position in the items. -/
  | tuple
  | undefined
  | unknown
  | void
deriving DecidableEq

/-- How composed items are joined. -/
inductive Operator where
  | and
  | or
deriving DecidableEq

/-- Whether a field occurs in results only or in requests only. -/
inductive AccessScope where
  | read
  | write
deriving DecidableEq

/-- What a node says apart from the nodes in it. A `const` or `default` that is null is there. -/
structure Attributes where
  kind : Option Kind := none
  reference : Option String := none
  operator : Option Operator := none
  required : Option (List String) := none
  format : Option String := none
  pattern : Option String := none
  minLength : Option Nat := none
  maxLength : Option Nat := none
  minimum : Option Binary64 := none
  maximum : Option Binary64 := none
  exclusiveMinimum : Option Binary64 := none
  exclusiveMaximum : Option Binary64 := none
  minItems : Option Nat := none
  maxItems : Option Nat := none
  const : Option Json.Value := none
  default : Option Json.Value := none
  title : Option String := none
  description : Option String := none
  deprecated : Option Bool := none
  accessScope : Option AccessScope := none

structure Node extends Attributes where
  items : Option (List Node) := none
  properties : Option (List (String × Node)) := none
  additional : Option Node := none

instance : Inhabited Node := ⟨{}⟩

/-- Each attribute of `child` that is set, and of `parent` otherwise; the operator is the child's. -/
def Attributes.lift (parent child : Attributes) : Attributes where
  kind := child.kind <|> parent.kind
  reference := child.reference <|> parent.reference
  operator := child.operator
  required := child.required <|> parent.required
  format := child.format <|> parent.format
  pattern := child.pattern <|> parent.pattern
  minLength := child.minLength <|> parent.minLength
  maxLength := child.maxLength <|> parent.maxLength
  minimum := child.minimum <|> parent.minimum
  maximum := child.maximum <|> parent.maximum
  exclusiveMinimum := child.exclusiveMinimum <|> parent.exclusiveMinimum
  exclusiveMaximum := child.exclusiveMaximum <|> parent.exclusiveMaximum
  minItems := child.minItems <|> parent.minItems
  maxItems := child.maxItems <|> parent.maxItems
  const := child.const <|> parent.const
  default := child.default <|> parent.default
  title := child.title <|> parent.title
  description := child.description <|> parent.description
  deprecated := child.deprecated <|> parent.deprecated
  accessScope := child.accessScope <|> parent.accessScope

namespace Node

def ofKind (kind : Kind) : Node := { kind := some kind }

def isReference (n : Node) : Bool :=
  n.reference.isSome && n.kind.isNone

/-- The node composes its items. -/
def isComposition (n : Node) : Bool :=
  n.kind.isNone && n.reference.isNone && n.items.any fun items => !items.isEmpty

def isRequired (n : Node) (property : String) : Bool :=
  n.required.any fun names => names.contains property

/-- Brings the only member of a composition up into the composing node. What the member sets counts, what
it leaves open is the node's; the composition itself is the member's. -/
def lift (parent child : Node) : Node where
  toAttributes := parent.toAttributes.lift child.toAttributes
  items := child.items
  properties := child.properties <|> parent.properties
  additional := child.additional <|> parent.additional

mutual

/-- How many nodes there are in a node, itself included. -/
def size : Node → Nat
  | ⟨_, items, properties, additional⟩ =>
    1 + (match items with
      | some ns => sizes ns
      | none => 0)
      + (match properties with
      | some ps => fieldSizes ps
      | none => 0)
      + (match additional with
      | some n => n.size
      | none => 0)

def sizes : List Node → Nat
  | [] => 0
  | n :: ns => n.size + sizes ns

def fieldSizes : List (String × Node) → Nat
  | [] => 0
  | (_, n) :: ps => n.size + fieldSizes ps

end

/-- The nodes in the items, none when there are no items. -/
def itemList (n : Node) : List Node := n.items.getD []

/-- The properties, none when there are no properties. -/
def propertyList (n : Node) : List (String × Node) := n.properties.getD []

theorem size_eq (n : Node) :
    n.size = 1 + sizes n.itemList + fieldSizes n.propertyList + (n.additional.map size).getD 0 := by
  obtain ⟨a, items, properties, additional⟩ := n
  cases items <;> cases properties <;> cases additional <;> rfl

theorem size_pos (n : Node) : 0 < n.size := by
  rw [size_eq]; omega

theorem sizes_itemList_lt (n : Node) : sizes n.itemList < n.size := by
  rw [size_eq]; omega

theorem fieldSizes_propertyList_lt (n : Node) : fieldSizes n.propertyList < n.size := by
  rw [size_eq]; omega

theorem size_additional_lt {n m : Node} (h : n.additional = some m) : m.size < n.size := by
  rw [size_eq n, h]; simp only [Option.map_some, Option.getD_some]; omega

end Node

end Typeforge.Schema
