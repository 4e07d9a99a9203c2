import Typeforge.Proofs.Schema.References
import Typeforge.Proofs.Schema.Sameness

/-!
# Rounds that end

Collapsing a composition can be said as a loop: rounds of `deduplicate` until the node is no composition any
more or a round leaves it the same. The loop ends, since a round that changes a composition makes it smaller
(`deduplicate_eq_or_size_lt`) and a round that leaves it the same does not change it at all
(`deduplicate_eq_of_same`); what it ends with is `collapse` (`roundsFrom_deduplicate`).

A node that is lifted out of a composition is never the same as the composition: it nests one level less in
items, which `itemSize` counts.
-/

namespace Typeforge.Schema.Node

/-! ### What sameness keeps -/

mutual

/-- How many nodes there are in a node if only items are looked at. -/
def itemSize : Node → Nat
  | ⟨_, items, _, _⟩ => 1 + (match items with
      | some ns => itemSizes ns
      | none => 0)

def itemSizes : List Node → Nat
  | [] => 0
  | n :: ns => n.itemSize + itemSizes ns

end

theorem itemSize_eq (n : Node) : n.itemSize = 1 + itemSizes n.itemList := by
  obtain ⟨a, _ | ns, properties, additional⟩ := n <;> simp [itemSize, itemList, itemSizes]

theorem itemSize_le_itemSizes {n : Node} {ns : List Node} (h : n ∈ ns) : n.itemSize ≤ itemSizes ns := by
  induction ns with
  | nil => simp at h
  | cons m ns ih =>
    simp only [itemSizes]
    rcases List.mem_cons.1 h with rfl | h
    · omega
    · have := ih h
      omega

mutual

theorem itemSize_of_same : ∀ n m : Node, n.same m = true → n.itemSize = m.itemSize
  | ⟨a, items, _, _⟩, ⟨b, items', _, _⟩ => by
    intro h
    rw [same_mk] at h
    simp only [Bool.and_eq_true] at h
    cases items <;> cases items'
    · rfl
    · simp at h
    · simp at h
    · rename_i ns ms
      simp only [itemSize, itemSizes_of_same ns ms h.1.1.2]

theorem itemSizes_of_same : ∀ ns ms : List Node, sameList ns ms = true → itemSizes ns = itemSizes ms
  | [], [] => fun _ => rfl
  | n :: ns, m :: ms => by
    intro h
    simp only [sameList, Bool.and_eq_true] at h
    simp only [itemSizes, itemSize_of_same n m h.1, itemSizes_of_same ns ms h.2]
  | [], _ :: _ => by simp [sameList]
  | _ :: _, [] => by simp [sameList]

end

theorem sameList_length {ns ms : List Node} (h : sameList ns ms = true) : ns.length = ms.length := by
  induction ns generalizing ms with
  | nil => cases ms <;> simp_all [sameList]
  | cons n ns ih =>
    cases ms with
    | nil => simp [sameList] at h
    | cons m ms =>
      simp only [sameList, Bool.and_eq_true] at h
      simp [ih h.2]

theorem sameList_of_same {n m : Node} (h : n.same m = true) : sameList n.itemList m.itemList = true := by
  obtain ⟨a, items, properties, additional⟩ := n
  obtain ⟨b, items', properties', additional'⟩ := m
  rw [same_mk] at h
  simp only [Bool.and_eq_true] at h
  cases items <;> cases items'
  · rfl
  · simp at h
  · simp at h
  · exact h.1.1.2

theorem attributes_of_same {n m : Node} (h : n.same m = true) : n.toAttributes.same m.toAttributes = true := by
  obtain ⟨a, items, properties, additional⟩ := n
  obtain ⟨b, items', properties', additional'⟩ := m
  rw [same_mk] at h
  simp only [Bool.and_eq_true] at h
  exact h.1.1.1

/-! ### One round -/

section Round

variable {n only : Node}

theorem items_of_isComposition (h : n.isComposition = true) :
    n.kind = none ∧ n.items = some n.itemList ∧ n.itemList ≠ [] := by
  obtain ⟨hk, items, hitems, hne⟩ : n.kind = none ∧ ∃ items, n.items = some items ∧ items ≠ [] := by
    simp only [isComposition, Bool.and_eq_true, Option.isNone_iff_eq_none, Option.any_eq_true] at h
    obtain ⟨⟨hk, -⟩, items, hitems, hne⟩ := h
    exact ⟨hk, items, hitems, by simpa using hne⟩
  have hlist : n.itemList = items := by simp [itemList, hitems]
  exact ⟨hk, by rw [hlist, hitems], by rwa [hlist]⟩

theorem only_or_several (h : n.isComposition = true) :
    (∃ only ∈ n.itemList, distinct n.itemList = [only]) ∨ 2 ≤ (distinct n.itemList).length := by
  obtain ⟨-, -, hne⟩ := items_of_isComposition h
  cases hd : distinct n.itemList with
  | nil => exact absurd hd (distinctFrom_nil_ne_nil hne)
  | cons only rest =>
    cases rest with
    | nil => exact .inl ⟨only, (distinct_sublist _).subset (hd ▸ List.mem_cons_self), rfl⟩
    | cons second rest => exact .inr (by simp)

theorem deduplicate_of_only (h : n.isComposition = true) (hd : distinct n.itemList = [only]) :
    n.deduplicate = n.lift only := by
  obtain ⟨hk, hitems, -⟩ := items_of_isComposition h
  unfold deduplicate
  rw [hitems]
  simp [hk, keepsItems, hd]

theorem deduplicate_of_several (h : n.isComposition = true) (hd : 2 ≤ (distinct n.itemList).length) :
    n.deduplicate = { n with items := some (distinct n.itemList) } := by
  obtain ⟨hk, hitems, -⟩ := items_of_isComposition h
  unfold deduplicate
  rw [hitems]
  simp only [hk, keepsItems, reduceCtorEq, if_false]
  cases hunique : distinct n.itemList with
  | nil => simp [hunique] at hd
  | cons first rest =>
    cases rest with
    | nil => simp [hunique] at hd
    | cons second rest => rfl

theorem deduplicate_of_isComposition (h : n.isComposition = true) :
    (∃ only ∈ n.itemList, n.deduplicate = n.lift only) ∨
      n.deduplicate = { n with items := some (distinct n.itemList) } := by
  rcases only_or_several h with ⟨only, honly, hd⟩ | hd
  · exact .inl ⟨only, honly, deduplicate_of_only h hd⟩
  · exact .inr (deduplicate_of_several h hd)

theorem sizes_lt_of_sublist {ms ns : List Node} (h : ms.Sublist ns) (hne : ms ≠ ns) : sizes ms < sizes ns := by
  induction h with
  | slnil => exact absurd rfl hne
  | @cons ms ns n hsub ih =>
    have := n.size_pos
    by_cases heq : ms = ns
    · simp only [sizes, heq]
      omega
    · have := ih heq
      simp only [sizes]
      omega
  | @cons_cons ms ns n hsub ih =>
    have := ih fun heq => hne (by rw [heq])
    simp only [sizes]
    omega

theorem with_itemList (h : n.isComposition = true) : { n with items := some n.itemList } = n := by
  obtain ⟨-, hitems, -⟩ := items_of_isComposition h
  rw [← hitems]
  cases n
  rfl

/-- A round that changes a composition makes it smaller. -/
theorem deduplicate_eq_or_size_lt (h : n.isComposition = true) :
    n.deduplicate = n ∨ n.deduplicate.size < n.size := by
  rcases deduplicate_of_isComposition h with ⟨only, honly, heq⟩ | heq
  · rw [heq]
    exact .inr (size_lift_lt n only (size_le_sizes honly))
  · by_cases hall : distinct n.itemList = n.itemList
    · rw [heq, hall]
      exact .inl (with_itemList h)
    · right
      rw [heq]
      have hsizes := size_other_items (n := n) (m := { n with items := some (distinct n.itemList) }) rfl rfl
      have := sizes_lt_of_sublist (distinct_sublist n.itemList) hall
      simp only [itemList, Option.getD_some] at hsizes this ⊢
      omega

theorem deduplicate_eq_of_same (h : n.isComposition = true) (hsame : n.deduplicate.same n = true) :
    n.deduplicate = n := by
  rcases deduplicate_of_isComposition h with ⟨only, honly, heq⟩ | heq
  · -- the lifted item would have to nest as deep as the composition it is in
    have hsize := itemSize_of_same _ _ hsame
    rw [heq, itemSize_eq n, itemSize_eq (n.lift only), show (n.lift only).itemList = only.itemList from rfl,
      ← itemSize_eq only] at hsize
    have := itemSize_le_itemSizes honly
    omega
  · have hlength := sameList_length (sameList_of_same hsame)
    rw [heq] at hlength
    rw [heq, (distinct_sublist n.itemList).eq_of_length hlength]
    exact with_itemList h

theorem WellKeyed.deduplicate (h : n.isComposition = true) (hn : n.WellKeyed) : n.deduplicate.WellKeyed := by
  rcases deduplicate_of_isComposition h with ⟨only, honly, heq⟩ | heq
  · exact heq ▸ hn.lift (hn.item honly)
  · exact heq ▸ hn.with_items (distinct_sublist _).subset

end Round

/-! ### All rounds -/

/-- Rounds from a node on, until it is no composition or a round leaves it the same; `none` when that takes
more rounds than there are tries. -/
def roundsFrom : Nat → Node → Option Node
  | 0, _ => none
  | tries + 1, current =>
    if !current.isComposition || current.deduplicate.same current then some current
    else roundsFrom tries current.deduplicate

section Loop

variable {n : Node}

theorem collapse_of_size_lt (h : n.deduplicate.size < n.size) :
    n.collapse = if n.deduplicate.isComposition then n.deduplicate.collapse else n.deduplicate := by
  rw [collapse]
  simp [h]

/-- The loop ends with the node that no round changes any more. -/
theorem roundsFrom_of_wellKeyed (hn : n.WellKeyed) {tries : Nat} (h : n.size ≤ tries) :
    roundsFrom tries n = some (if n.isComposition then n.collapse else n) := by
  induction tries generalizing n with
  | zero =>
    have := n.size_pos
    omega
  | succ tries ih =>
    rw [roundsFrom]
    by_cases hc : n.isComposition = true
    · rcases deduplicate_eq_or_size_lt hc with heq | hlt
      · have hcollapse : n.collapse = n := by
          rw [collapse, heq, dif_neg (by omega)]
        simp [hc, heq, hcollapse, same_refl hn]
      · have hsame : n.deduplicate.same n ≠ true := fun hsame => by
          rw [deduplicate_eq_of_same hc hsame] at hlt
          omega
        rw [if_neg (by simp [hc, hsame]), ih (hn.deduplicate hc) (by omega), if_pos hc,
          collapse_of_size_lt hlt]
    · simp [hc]

/-- **The loop of rounds ends, and with the collapsed node.** -/
theorem roundsFrom_deduplicate (hn : n.WellKeyed) (hc : n.isComposition = true) :
    roundsFrom n.size n.deduplicate = some n.collapse := by
  rw [roundsFrom_of_wellKeyed (hn.deduplicate hc) n.size_deduplicate_le]
  rcases deduplicate_eq_or_size_lt hc with heq | hlt
  · rw [heq, if_pos hc]
  · rw [collapse_of_size_lt hlt]

end Loop

end Typeforge.Schema.Node
