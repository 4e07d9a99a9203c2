import Typeforge.Schema.Node
import Mathlib.Data.List.Basic

/-!
# The nodes in a node

The items, the properties and the schema of further properties of a node are smaller than the node. `Holds`
goes on from there to all that lies below.
-/

namespace Typeforge.Schema.Node

/-! ### Smaller nodes -/

section Size

variable {n m : Node}

theorem size_le_sizes {ns : List Node} (h : n ∈ ns) : n.size ≤ sizes ns := by
  induction ns with
  | nil => simp at h
  | cons m ns ih =>
    simp only [sizes]
    rcases List.mem_cons.1 h with rfl | h
    · omega
    · have := ih h
      omega

theorem size_le_fieldSizes {p : String × Node} {ps : List (String × Node)} (h : p ∈ ps) :
    p.2.size ≤ fieldSizes ps := by
  induction ps with
  | nil => simp at h
  | cons q ps ih =>
    simp only [fieldSizes]
    rcases List.mem_cons.1 h with rfl | h
    · omega
    · have := ih h
      omega

theorem size_item_lt (h : m ∈ n.itemList) : m.size < n.size :=
  Nat.lt_of_le_of_lt (size_le_sizes h) n.sizes_itemList_lt

theorem size_property_lt {p : String × Node} (h : p ∈ n.propertyList) : p.2.size < n.size :=
  Nat.lt_of_le_of_lt (size_le_fieldSizes h) n.fieldSizes_propertyList_lt

theorem inductionOnSize {motive : Node → Prop} (step : ∀ n, (∀ m, m.size < n.size → motive m) → motive n)
    (n : Node) : motive n := by
  induction h : n.size using Nat.strongRecOn generalizing n with
  | _ k ih => exact step n fun m hm => ih m.size (h ▸ hm) m rfl

end Size

/-! ### All that lies below -/

/-- The second node is the first or lies somewhere in it. -/
inductive Holds : Node → Node → Prop
  | self (n : Node) : Holds n n
  | item {n m k : Node} : m ∈ n.itemList → Holds m k → Holds n k
  | property {n k : Node} {p : String × Node} : p ∈ n.propertyList → Holds p.2 k → Holds n k
  | additional {n m k : Node} : n.additional = some m → Holds m k → Holds n k

theorem Holds.trans {n m k : Node} (h : n.Holds m) (h' : m.Holds k) : n.Holds k := by
  induction h with
  | self => exact h'
  | item hm _ ih => exact .item hm (ih h')
  | property hp _ ih => exact .property hp (ih h')
  | additional hm _ ih => exact .additional hm (ih h')

theorem holds_lift {parent child k : Node} (h : (parent.lift child).Holds k) :
    k = parent.lift child ∨ parent.Holds k ∨ child.Holds k := by
  cases h with
  | self => exact .inl rfl
  | item hm h => exact .inr (.inr (.item hm h))
  | @property _ _ p hp h =>
    right
    have : p ∈ child.propertyList ∨ p ∈ parent.propertyList := by
      simp only [lift, propertyList] at hp ⊢
      cases hc : child.properties <;> simp_all
    exact this.symm.imp (fun hp => .property hp h) fun hp => .property hp h
  | @additional _ m _ hm h =>
    right
    have : child.additional = some m ∨ parent.additional = some m := by
      simp only [lift] at hm
      cases hc : child.additional <;> simp_all
    exact this.symm.imp (fun hm => .additional hm h) fun hm => .additional hm h

/-- What lies in a node with fewer items is the node itself or lies in the node with all of them. -/
theorem holds_with_items {n k : Node} {items : List Node} (hsub : items ⊆ n.itemList)
    (h : ({ n with items := some items } : Node).Holds k) : k = { n with items := some items } ∨ n.Holds k := by
  cases h with
  | self => exact .inl rfl
  | item hm h => exact .inr (.item (hsub hm) h)
  | property hp h => exact .inr (.property hp h)
  | additional hm h => exact .inr (.additional hm h)

end Typeforge.Schema.Node
