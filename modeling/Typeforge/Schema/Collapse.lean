import Typeforge.Schema.Sameness

/-!
# Collapsing compositions

Items that are the same as an earlier item say nothing new. When a composition has one item left, the item
is lifted into the composing node, which may make it a composition again; `collapse` repeats this until
nothing changes.

* `size_deduplicate_le`: no round adds a node.
* `size_deduplicate_lt`: a composition that ceases to be one in a round has become smaller.
-/

namespace Typeforge.Schema.Node

/-- The items that are the same neither as one in `seen` nor as an earlier one. -/
def distinctFrom (seen : List Node) : List Node → List Node
  | [] => []
  | n :: ns =>
    if seen.any fun m => m.same n then distinctFrom seen ns else n :: distinctFrom (n :: seen) ns

/-- The first of the items that are the same, in order. -/
def distinct (ns : List Node) : List Node := distinctFrom [] ns

/-- Whether the items are the node's own matter, so that an only item stays where it is. -/
def keepsItems (n : Node) : Bool :=
  n.kind = some .array || n.kind = some .enumeration

/-- One round: without repeated items, and with an only item lifted. The items of a tuple stand for
positions and are left alone. -/
def deduplicate (n : Node) : Node :=
  match n.items with
  | none => n
  | some items =>
    if n.kind = some .tuple then n
    else match distinct items, n.keepsItems with
      | [], false => { n with items := none, operator := none }
      | [only], false => n.lift only
      | unique, _ => { n with items := some unique }

theorem sizes_distinctFrom_le (seen ns : List Node) : sizes (distinctFrom seen ns) ≤ sizes ns := by
  induction ns generalizing seen with
  | nil => simp [distinctFrom]
  | cons n ns ih =>
    simp only [distinctFrom]
    split
    · have := ih seen
      simp only [sizes]
      omega
    · have := ih (n :: seen)
      simp only [sizes]
      omega

theorem size_lift_lt (parent child : Node) (h : child.size ≤ sizes parent.itemList) :
    (parent.lift child).size < parent.size := by
  rw [size_eq child] at h
  rw [size_eq parent, size_eq (parent.lift child)]
  have hi : (parent.lift child).itemList = child.itemList := rfl
  have hp : fieldSizes (parent.lift child).propertyList
      ≤ fieldSizes child.propertyList + fieldSizes parent.propertyList := by
    simp only [lift, propertyList]
    cases child.properties <;> simp
  have ha : ((parent.lift child).additional.map size).getD 0
      ≤ (child.additional.map size).getD 0 + (parent.additional.map size).getD 0 := by
    simp only [lift]
    cases child.additional <;> simp
  rw [hi]
  omega

theorem size_other_items {n m : Node} (hp : m.properties = n.properties) (ha : m.additional = n.additional) :
    m.size + sizes n.itemList = n.size + sizes m.itemList := by
  rw [size_eq n, size_eq m, ha]
  simp only [propertyList, hp]
  omega

theorem size_deduplicate_le (n : Node) : n.deduplicate.size ≤ n.size := by
  unfold deduplicate
  split
  · exact Nat.le_refl _
  · rename_i items hitems
    have hlist : n.itemList = items := by simp [itemList, hitems]
    have hsizes : sizes (distinct items) ≤ sizes items := sizes_distinctFrom_le [] items
    split
    · exact Nat.le_refl _
    · split
      · have := size_other_items (n := n) (m := { n with items := none, operator := none }) rfl rfl
        rw [hlist] at this
        simp only [itemList, Option.getD_none, sizes] at this
        omega
      · rename_i only honly _
        rw [honly] at hsizes
        simp only [sizes] at hsizes
        exact Nat.le_of_lt (size_lift_lt n only (by rw [hlist]; omega))
      · have := size_other_items (n := n) (m := { n with items := some (distinct items) }) rfl rfl
        rw [hlist] at this
        simp only [itemList, Option.getD_some] at this
        omega

theorem distinctFrom_nil_ne_nil {ns : List Node} (h : ns ≠ []) : distinct ns ≠ [] := by
  cases ns with
  | nil => exact absurd rfl h
  | cons n ns => simp [distinct, distinctFrom]

theorem size_deduplicate_lt {n : Node} (h : n.isComposition = true)
    (hd : n.deduplicate.isComposition = false) : n.deduplicate.size < n.size := by
  obtain ⟨⟨hk, hr⟩, items, hitems, hne⟩ :
      (n.kind = none ∧ n.reference = none) ∧ ∃ items, n.items = some items ∧ items ≠ [] := by
    simpa [isComposition, Option.any_eq_true, and_assoc] using h
  have hlist : n.itemList = items := by simp [itemList, hitems]
  have hkeeps : n.keepsItems = false := by simp [keepsItems, hk]
  have hdistinct := distinctFrom_nil_ne_nil hne
  have hsizes : sizes (distinct items) ≤ sizes items := sizes_distinctFrom_le [] items
  unfold deduplicate at hd ⊢
  simp only [hitems, hk, hkeeps, reduceCtorEq, if_false] at hd ⊢
  cases hunique : distinct items with
  | nil => exact absurd hunique hdistinct
  | cons only rest =>
    rw [hunique] at hsizes hd
    cases rest with
    | nil =>
      simp only [sizes] at hsizes
      exact size_lift_lt n only (by rw [hlist]; omega)
    | cons second rest => simp [isComposition, hk, hr] at hd

/-- Rounds of `deduplicate` until the node is no composition any more or no item goes. -/
def collapse (n : Node) : Node :=
  let once := n.deduplicate
  if _h : once.isComposition ∧ once.size < n.size then once.collapse else once
termination_by n.size
decreasing_by exact _h.2

theorem size_collapse_le (n : Node) : n.collapse.size ≤ n.size := by
  fun_induction collapse n with
  | case1 n once h ih => exact Nat.le_trans ih (Nat.le_of_lt h.2)
  | case2 n once h => exact size_deduplicate_le n

end Typeforge.Schema.Node
