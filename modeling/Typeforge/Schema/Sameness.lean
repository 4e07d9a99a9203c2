import Typeforge.Schema.Node

/-!
# Sameness of nodes

Two nodes are the same when all their parts are, however deep. The order of properties does not count, nor
does that of the keys in constants and defaults; bounds are compared as numbers, so the two zeros are one.
-/

namespace Typeforge.Schema

/-- Both absent, or both there and the same. -/
def sameOption {α : Type} (same : α → α → Bool) : Option α → Option α → Bool
  | none, none => true
  | some a, some b => same a b
  | _, _ => false

def Attributes.same (a b : Attributes) : Bool :=
  decide (a.kind = b.kind)
  && decide (a.reference = b.reference)
  && decide (a.operator = b.operator)
  && decide (a.required = b.required)
  && decide (a.format = b.format)
  && decide (a.pattern = b.pattern)
  && decide (a.minLength = b.minLength)
  && decide (a.maxLength = b.maxLength)
  && sameOption Binary64.sameValue a.minimum b.minimum
  && sameOption Binary64.sameValue a.maximum b.maximum
  && sameOption Binary64.sameValue a.exclusiveMinimum b.exclusiveMinimum
  && sameOption Binary64.sameValue a.exclusiveMaximum b.exclusiveMaximum
  && decide (a.minItems = b.minItems)
  && decide (a.maxItems = b.maxItems)
  && sameOption Json.Value.same a.const b.const
  && sameOption Json.Value.same a.default b.default
  && decide (a.title = b.title)
  && decide (a.description = b.description)
  && decide (a.deprecated = b.deprecated)
  && decide (a.accessScope = b.accessScope)

namespace Node

mutual

def same : Node → Node → Bool
  | ⟨a, items, properties, additional⟩, ⟨b, items', properties', additional'⟩ =>
    a.same b
    && (match items, items' with
      | some xs, some ys => sameList xs ys
      | none, none => true
      | _, _ => false)
    && (match properties, properties' with
      | some ps, some qs => ps.length == qs.length && sameFields ps qs
      | none, none => true
      | _, _ => false)
    && (match additional, additional' with
      | some n, some m => n.same m
      | none, none => true
      | _, _ => false)

def sameList : List Node → List Node → Bool
  | [], [] => true
  | n :: ns, m :: ms => n.same m && sameList ns ms
  | _, _ => false

/-- Every field of the first list has the same node in the second. -/
def sameFields : List (String × Node) → List (String × Node) → Bool
  | [], _ => true
  | (k, n) :: ps, qs =>
    (match Keyed.get? qs k with
      | some m => n.same m
      | none => false) && sameFields ps qs

end

end Node

end Typeforge.Schema
