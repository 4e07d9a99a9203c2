import Typeforge.Schema.Collapse
import Typeforge.Code.Constant
import Typeforge.Code.Quoted

/-!
# The type of a node

Which type a node stands for, with references in the place of names. `naming` replaces the references, from
left to right.
-/

namespace Typeforge.Code

section Naming

variable {m : Type → Type} [Monad m] (f : String → m String)

mutual

/-- Replaces each name that a type refers to, from left to right. -/
def Ty.naming : Ty → m Ty
  | .keyword k => pure (.keyword k)
  | .literal l => pure (.literal l)
  | .ref r => do return .ref (← f r)
  | .array element => do return .array (← element.naming)
  | .tuple elements => do return .tuple (← namingTypes elements)
  | .union members => do return .union (← namingTypes members)
  | .intersection members => do return .intersection (← namingTypes members)
  | .object members => do return .object (← namingMembers members)
  | .record key value => do return .record (← key.naming) (← value.naming)

def namingTypes : List Ty → m (List Ty)
  | [] => pure []
  | t :: ts => do return (← t.naming) :: (← namingTypes ts)

def namingMembers : List (Member Ty) → m (List (Member Ty))
  | [] => pure []
  | ⟨name, type, optional, readonly⟩ :: ms => do
    return ⟨name, ← type.naming, optional, readonly⟩ :: (← namingMembers ms)

end

end Naming

end Typeforge.Code

namespace Typeforge.Types

open Code Schema

/-- The types without those that are the same as an earlier one. -/
def distinctTypes (ts : List Ty) : List Ty :=
  ts.foldl (fun kept t => if kept.any fun u => u.same t then kept else kept ++ [t]) []

/-- The type of a member of an enumeration; one that stands for nothing has none. -/
def memberType? (a : Attributes) : Option Ty :=
  match a.const with
  | some v => some (.ofValue v)
  | none => if a.kind = some .null then some (.literal .null) else none

def enumerationType (members : List Attributes) : Ty :=
  match distinctTypes (members.filterMap memberType?) with
  | [] => .keyword .unknown
  | [t] => t
  | ts => .union ts

mutual

def shape (n : Node) : Ty :=
  match n.reference, n.kind, n.const with
  | some r, none, _ => .ref r
  | _, _, some v => .ofValue v
  | none, none, none =>
    if _h : n.isComposition then
      if _hd : n.deduplicate.isComposition then
        if n.deduplicate.operator = some .and then .intersection (shapes n.deduplicate.itemList)
        else .union (shapes n.deduplicate.itemList)
      else shape n.deduplicate
    else .keyword .unknown
  | _, some kind, none =>
    match kind with
    | .array =>
      match shapes n.deduplicate.itemList with
      | [only] => .array only
      | _ => .array (.keyword .unknown)
    | .boolean => .keyword .boolean
    | .enumeration => enumerationType (n.itemList.map Node.toAttributes)
    | .integer | .number => .keyword .number
    | .never => .keyword .never
    | .null => .keyword .null
    | .object => objectShape n
    | .string => .keyword .string
    | .tuple => .tuple (shapes n.itemList)
    | .undefined => .keyword .undefined
    | .unknown => .keyword .unknown
    | .void => .keyword .void
termination_by (n.size, 1)
decreasing_by
  · exact Prod.Lex.left _ _ (Nat.lt_of_lt_of_le n.deduplicate.sizes_itemList_lt n.size_deduplicate_le)
  · exact Prod.Lex.left _ _ (Nat.lt_of_lt_of_le n.deduplicate.sizes_itemList_lt n.size_deduplicate_le)
  · exact Prod.Lex.left _ _ (Node.size_deduplicate_lt _h (by simpa using _hd))
  · exact Prod.Lex.left _ _ (Nat.lt_of_lt_of_le n.deduplicate.sizes_itemList_lt n.size_deduplicate_le)
  · exact Prod.Lex.right _ (by decide)
  · exact Prod.Lex.left _ _ n.sizes_itemList_lt

def shapes (ns : List Node) : List Ty :=
  match ns with
  | [] => []
  | n :: ns => shape n :: shapes ns
termination_by (Node.sizes ns, 2)
decreasing_by
  · simp only [Node.sizes]
    rcases Nat.lt_or_eq_of_le (Nat.le_add_right n.size (Node.sizes ns)) with h | h
    · exact Prod.Lex.left _ _ h
    · rw [← h]; exact Prod.Lex.right _ (by decide)
  · simp only [Node.sizes]
    have := n.size_pos
    exact Prod.Lex.left _ _ (by omega)

/-- The properties of an object: one that is not required may be left out, and one that occurs in results
only cannot be written. -/
def memberShapes (required : String → Bool) (ps : List (String × Node)) : List (Member Ty) :=
  match ps with
  | [] => []
  | (name, n) :: ps =>
    ⟨name, shape n, !required name, n.accessScope = some .read⟩ :: memberShapes required ps
termination_by (Node.fieldSizes ps, 2)
decreasing_by
  · simp only [Node.fieldSizes]
    rcases Nat.lt_or_eq_of_le (Nat.le_add_right n.size (Node.fieldSizes ps)) with h | h
    · exact Prod.Lex.left _ _ h
    · rw [← h]; exact Prod.Lex.right _ (by decide)
  · simp only [Node.fieldSizes]
    have := n.size_pos
    exact Prod.Lex.left _ _ (by omega)

/-- The type of an object by its properties and the schema of further ones. -/
def objectShape (n : Node) : Ty :=
  match n.propertyList.isEmpty, _h : n.additional with
  | false, some additional =>
    .intersection [.object (memberShapes n.isRequired n.propertyList), .stringRecord (shape additional)]
  | false, none => .object (memberShapes n.isRequired n.propertyList)
  | true, some additional => .stringRecord (shape additional)
  | true, none => .unknownRecord
termination_by (n.size, 0)
decreasing_by
  · exact Prod.Lex.left _ _ n.fieldSizes_propertyList_lt
  · exact Prod.Lex.left _ _ (Node.size_additional_lt _h)
  · exact Prod.Lex.left _ _ n.fieldSizes_propertyList_lt
  · exact Prod.Lex.left _ _ (Node.size_additional_lt _h)

end

/-- What is declared for a component. -/
inductive Shape where
  | interface (members : List (Member Ty))
  | typeAlias (type : Ty)

/-- A plain object with properties is an interface, all else is an alias. -/
def Shape.ofNode (n : Node) : Shape :=
  if n.kind = some .object && n.const.isNone && n.additional.isNone && !n.propertyList.isEmpty then
    .interface (memberShapes n.isRequired n.propertyList)
  else .typeAlias (shape n)

def Shape.statement (name : String) : Shape → Stmt
  | .interface members => .interface name members
  | .typeAlias type => .typeAlias name type

/-- The comment on a node: its description, and whether it is deprecated. -/
def commentOn (a : Attributes) : List String :=
  (a.description.map escapeComment).toList ++ (if a.deprecated = some true then ["@deprecated"] else [])

end Typeforge.Types
