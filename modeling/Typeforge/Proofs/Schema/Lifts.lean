import Typeforge.Proofs.Schema.Rounds
import Typeforge.Validator.Outline
import Mathlib.Logic.Function.Iterate

/-!
# Chains of lifts

A composition of one item is that item with what the item leaves open, and the item may be a composition again.
`levels` are the nodes that are lifted into each other in this way, from the outside in. What a node settles to is
made from them:

* `settled_lift`: settling an item before it is lifted and settling what it is lifted into is the same;
* `settled_settled`: a settled node is settled;
* `field_settled`: each field but the operator and the items is that of the innermost level that sets it;
* `exists_innermost`: the operator and the items are those of the innermost level;
* `pairwise_distinct`: no two items that a composition settles to are the same.
-/

namespace Typeforge.Schema.Node

/-! ### Items without repetition -/

section Distinct

theorem pairwise_distinctFrom (seen ns : List Node) :
    (∀ n ∈ distinctFrom seen ns, ∀ m ∈ seen, m.same n = false) ∧
      (distinctFrom seen ns).Pairwise fun n m => n.same m = false := by
  induction ns generalizing seen with
  | nil => simp [distinctFrom]
  | cons n ns ih =>
    rw [distinctFrom]
    split
    · exact ih seen
    · rename_i hnew
      obtain ⟨apart, pairwise⟩ := ih (n :: seen)
      have new : ∀ m ∈ seen, m.same n = false := by simpa using hnew
      refine ⟨List.forall_mem_cons.2 ⟨new, fun k hk m hm => apart k hk m (List.mem_cons_of_mem _ hm)⟩, ?_⟩
      exact List.pairwise_cons.2 ⟨fun k hk => apart k hk n List.mem_cons_self, pairwise⟩

theorem pairwise_distinct (ns : List Node) : (distinct ns).Pairwise fun n m => n.same m = false :=
  (pairwise_distinctFrom [] ns).2

theorem distinctFrom_eq_self {seen ns : List Node} (h : ∀ n ∈ ns, ∀ m ∈ seen, m.same n = false)
    (hns : ns.Pairwise fun n m => n.same m = false) : distinctFrom seen ns = ns := by
  induction ns generalizing seen with
  | nil => rfl
  | cons n ns ih =>
    obtain ⟨hn, hns⟩ := List.pairwise_cons.1 hns
    obtain ⟨hnew, h⟩ := List.forall_mem_cons.1 h
    rw [distinctFrom, if_neg (by simpa using hnew), ih (fun k hk => List.forall_mem_cons.2 ⟨hn k hk, h k hk⟩) hns]

theorem distinct_distinct (ns : List Node) : distinct (distinct ns) = distinct ns :=
  distinctFrom_eq_self (by simp) (pairwise_distinct ns)

end Distinct

/-! ### One round of what is lifted -/

section Round

variable {n m only : Node}

theorem isComposition_with_items {items : List Node} (h : n.isComposition = true) (hne : items ≠ []) :
    ({ n with items := some items } : Node).isComposition = true := by
  simp only [isComposition, Bool.and_eq_true] at h ⊢
  exact ⟨h.1, by simpa using hne⟩

/-- A composition sets no kind and no reference, so what is lifted into it composes just if it did before. -/
theorem isComposition_lift (h : n.isComposition = true) : (n.lift m).isComposition = m.isComposition := by
  simp only [isComposition, Bool.and_eq_true, Option.isNone_iff_eq_none] at h
  simp [isComposition, lift, Attributes.lift, h.1.1, h.1.2]

theorem lift_assoc : (n.lift m).lift only = n.lift (m.lift only) := by
  simp [lift, Attributes.lift, Option.or_assoc]

theorem deduplicate_lift (hn : n.isComposition = true) (hm : m.isComposition = true) :
    (n.lift m).deduplicate = n.lift m.deduplicate := by
  have hlift : (n.lift m).isComposition = true := (isComposition_lift hn).trans hm
  rcases only_or_several hm with ⟨only, -, hd⟩ | hd
  · rw [deduplicate_of_only hm hd, deduplicate_of_only hlift hd, lift_assoc]
  · rw [deduplicate_of_several hm hd, deduplicate_of_several hlift hd]
    rfl

end Round

/-! ### Settling -/

section Settled

variable {n m only : Node}

theorem settled_of_not (h : n.isComposition = false) : n.settled = n := by
  simp [settled, h]

theorem settled_of_isComposition (h : n.isComposition = true) : n.settled = n.collapse := by
  simp [settled, h]

theorem settled_of_fixed (h : n.deduplicate = n) : n.settled = n := by
  unfold settled
  split
  · rw [collapse, h]
    simp
  · rfl

theorem settled_of_ends (h : n.isComposition = false ∨ n.deduplicate = n) : n.settled = n :=
  h.elim settled_of_not settled_of_fixed

theorem settled_deduplicate (h : n.isComposition = true) : n.deduplicate.settled = n.settled := by
  rcases deduplicate_eq_or_size_lt h with heq | hlt
  · rw [heq]
  · rw [settled_of_isComposition h, collapse_of_size_lt hlt]
    rfl

theorem isComposition_of_settled (h : n.settled.isComposition = true) : n.isComposition = true := by
  cases hn : n.isComposition with
  | true => rfl
  | false => rw [settled_of_not hn, hn] at h; cases h

/-- What settles to a composition is one after the first round too. -/
theorem isComposition_deduplicate (h : n.settled.isComposition = true) : n.deduplicate.isComposition = true := by
  rw [← settled_deduplicate (isComposition_of_settled h)] at h
  exact isComposition_of_settled h

/-- What is true of nodes with which the rounds end, and of a composition if it is after a round of it, is true of all
nodes: no round but the last leaves the size as it is. -/
theorem inductionOnRounds {P : Node → Prop} (ends : ∀ n, n.isComposition = false ∨ n.deduplicate = n → P n)
    (round : ∀ n, n.isComposition = true → n.deduplicate.size < n.size → P n.deduplicate → P n) (n : Node) : P n := by
  induction n using inductionOnSize with
  | step n ih =>
    cases hn : n.isComposition with
    | false => exact ends n (.inl hn)
    | true =>
      rcases deduplicate_eq_or_size_lt hn with heq | hlt
      · exact ends n (.inr heq)
      · exact round n hn hlt (ih _ hlt)

theorem settled_lift (hn : n.isComposition = true) : (n.lift m).settled = n.lift m.settled := by
  induction m using inductionOnRounds with
  | ends m hm =>
    rw [settled_of_ends hm]
    cases hc : m.isComposition with
    | false => exact settled_of_not ((isComposition_lift hn).trans hc)
    | true =>
      have heq := hm.resolve_left (by simp [hc])
      exact settled_of_fixed (by rw [deduplicate_lift hn hc, heq])
  | round m hm hlt ih =>
    rw [← settled_deduplicate ((isComposition_lift hn).trans hm), deduplicate_lift hn hm, ih, settled_deduplicate hm]

theorem settled_of_only (h : n.isComposition = true) (hd : distinct n.itemList = [only]) :
    n.settled = n.lift only.settled := by
  rw [← settled_deduplicate h, deduplicate_of_only h hd, settled_lift h]

theorem settled_of_several (h : n.isComposition = true) (hd : 2 ≤ (distinct n.itemList).length) :
    n.settled = { n with items := some (distinct n.itemList) } := by
  have hne : distinct n.itemList ≠ [] := fun hnil => by simp [hnil] at hd
  have hc : ({ n with items := some (distinct n.itemList) } : Node).isComposition = true :=
    isComposition_with_items h hne
  rw [← settled_deduplicate h, deduplicate_of_several h hd, settled_of_fixed]
  rw [deduplicate_of_several hc (by simpa [itemList, distinct_distinct] using hd)]
  simp [itemList, distinct_distinct]

theorem deduplicate_settled (h : n.settled.isComposition = true) : n.settled.deduplicate = n.settled := by
  induction n using inductionOnRounds with
  | ends n hn =>
    rw [settled_of_ends hn] at h ⊢
    exact hn.resolve_left (by simp [h])
  | round n hn hlt ih =>
    rw [← settled_deduplicate hn] at h ⊢
    exact ih h

theorem settled_settled (n : Node) : n.settled.settled = n.settled := by
  cases h : n.settled.isComposition with
  | false => exact settled_of_not h
  | true => exact settled_of_fixed (deduplicate_settled h)

/-- A composition that stays one keeps two items or more, and none that is the same as one before it. -/
theorem items_of_settled (h : n.settled.isComposition = true) :
    2 ≤ n.settled.itemList.length ∧ n.settled.itemList.Pairwise fun k m => k.same m = false := by
  have hfixed := deduplicate_settled h
  rcases only_or_several h with ⟨only, honly, hd⟩ | hd
  · -- a round would lift the only item, which makes the node smaller
    have hlt := size_lift_lt _ only (size_le_sizes honly)
    rw [← deduplicate_of_only h hd, hfixed] at hlt
    omega
  · have hitems := congrArg itemList (deduplicate_of_several h hd)
    rw [hfixed] at hitems
    simp only [itemList, Option.getD_some] at hitems hd ⊢
    rw [hitems]
    exact ⟨hd, pairwise_distinct _⟩

theorem WellKeyed.settled (h : n.WellKeyed) : n.settled.WellKeyed := by
  induction n using inductionOnRounds with
  | ends n hn => rwa [settled_of_ends hn]
  | round n hn hlt ih =>
    rw [← settled_deduplicate hn]
    exact ih (h.deduplicate hn)

theorem pairwise_items_of_settled (hn : n.WellKeyed) (h : n.settled.isComposition = true) :
    n.settled.itemList.Pairwise fun k m => k.same m = false ∧ m.same k = false := by
  refine (items_of_settled h).2.imp_of_mem fun {k m} hk hm hne => ⟨hne, ?_⟩
  rw [Bool.eq_false_iff] at hne ⊢
  exact fun hsame => hne (same_symm (hn.settled.item hm) (hn.settled.item hk) hsame)

/-- Rounds of a composition come to what it settles to. Until then each of them changes a composition, and makes it
smaller. -/
theorem exists_rounds (n : Node) : ∃ rounds < n.size, deduplicate^[rounds] n = n.settled ∧
    ∀ before < rounds, (deduplicate^[before] n).isComposition = true ∧
      (deduplicate^[before + 1] n).size < (deduplicate^[before] n).size := by
  induction n using inductionOnRounds with
  | ends n hn => exact ⟨0, n.size_pos, (settled_of_ends hn).symm, by simp⟩
  | round n hn hlt ih =>
    obtain ⟨rounds, hrounds, hends, hbefore⟩ := ih
    refine ⟨rounds + 1, by omega, ?_, ?_⟩
    · rw [Function.iterate_succ_apply, hends, settled_deduplicate hn]
    · intro before hb
      cases before with
      | zero => exact ⟨hn, hlt⟩
      | succ before => exact hbefore before (by omega)

end Settled

/-! ### Levels and fields -/

/-- The nodes that are lifted into each other, from the outside in: the node, and the levels of its only item if it
composes no other. -/
def levels (n : Node) : List Node :=
  if n.isComposition then
    match _h : distinct n.itemList with
    | [only] => n :: only.levels
    | _ => [n]
  else [n]
termination_by n.size
decreasing_by
  exact size_item_lt ((distinct_sublist n.itemList).subset (_h ▸ List.mem_cons_self))

/-- The fields of a node, apart from the operator and the items. -/
inductive IsField : {α : Type} → (Node → Option α) → Prop where
  | kind : IsField fun n => n.kind
  | reference : IsField fun n => n.reference
  | required : IsField fun n => n.required
  | format : IsField fun n => n.format
  | pattern : IsField fun n => n.pattern
  | minLength : IsField fun n => n.minLength
  | maxLength : IsField fun n => n.maxLength
  | minimum : IsField fun n => n.minimum
  | maximum : IsField fun n => n.maximum
  | exclusiveMinimum : IsField fun n => n.exclusiveMinimum
  | exclusiveMaximum : IsField fun n => n.exclusiveMaximum
  | minItems : IsField fun n => n.minItems
  | maxItems : IsField fun n => n.maxItems
  | const : IsField fun n => n.const
  | default : IsField fun n => n.default
  | title : IsField fun n => n.title
  | description : IsField fun n => n.description
  | deprecated : IsField fun n => n.deprecated
  | accessScope : IsField fun n => n.accessScope
  | properties : IsField Node.properties
  | additional : IsField Node.additional

section Fields

variable {α : Type} {get : Node → Option α} {n m only : Node}

/-- No field is missing from `IsField`. -/
theorem eq_of_fields (hfields : ∀ {α : Type} {get : Node → Option α}, IsField get → get n = get m)
    (hoperator : n.operator = m.operator) (hitems : n.items = m.items) : n = m := by
  obtain ⟨a, items, properties, additional⟩ := n
  obtain ⟨b, items', properties', additional'⟩ := m
  have attributes : a = b := by
    cases a
    cases b
    rw [Attributes.mk.injEq]
    exact ⟨hfields .kind, hfields .reference, hoperator, hfields .required, hfields .format, hfields .pattern,
      hfields .minLength, hfields .maxLength, hfields .minimum, hfields .maximum, hfields .exclusiveMinimum,
      hfields .exclusiveMaximum, hfields .minItems, hfields .maxItems, hfields .const, hfields .default,
      hfields .title, hfields .description, hfields .deprecated, hfields .accessScope⟩
  have properties : properties = properties' := hfields .properties
  have additional : additional = additional' := hfields .additional
  simp only at hitems
  rw [attributes, hitems, properties, additional]

theorem IsField.lift (h : IsField get) : get (n.lift m) = (get m).or (get n) := by
  cases h <;> simp [Node.lift, Attributes.lift]

theorem IsField.with_items (h : IsField get) (items : Option (List Node)) : get { n with items } = get n := by
  cases h <;> rfl

theorem levels_of_not (h : n.isComposition = false) : n.levels = [n] := by
  rw [levels]
  simp [h]

theorem levels_of_only (h : n.isComposition = true) (hd : distinct n.itemList = [only]) :
    n.levels = n :: only.levels := by
  rw [levels, if_pos h]
  split
  · rename_i only' hd'
    rw [hd] at hd'
    cases hd'
    rfl
  · rename_i hother
    exact absurd hd (hother only)

theorem levels_of_several (h : n.isComposition = true) (hd : 2 ≤ (distinct n.itemList).length) : n.levels = [n] := by
  rw [levels, if_pos h]
  split
  · rename_i hone
    simp [hone] at hd
  · rfl

theorem mem_levels (n : Node) : n ∈ n.levels := by
  rw [levels]
  split
  · split <;> simp
  · simp

/-- **Each field is that of the innermost level that sets it.** -/
theorem field_settled (h : IsField get) (n : Node) : get n.settled = n.levels.reverse.findSome? get := by
  induction n using inductionOnSize with
  | step n ih =>
    cases hn : n.isComposition with
    | false => simp [settled_of_not hn, levels_of_not hn]
    | true =>
      rcases only_or_several hn with ⟨only, honly, hd⟩ | hd
      · rw [settled_of_only hn hd, levels_of_only hn hd, h.lift, ih only (size_item_lt honly)]
        simp
      · rw [settled_of_several hn hd, levels_of_several hn hd, h.with_items]
        simp

theorem IsField.of_settled (h : IsField get) (hs : get n.settled = none) : get n = none := by
  rw [field_settled h, List.findSome?_eq_none_iff] at hs
  exact hs n (List.mem_reverse.2 n.mem_levels)

/-- The composition itself is that of the innermost level, but for repeated items. -/
theorem exists_innermost (n : Node) : ∃ outer innermost, n.levels = outer ++ [innermost] ∧
    n.settled.isComposition = innermost.isComposition ∧ n.settled.operator = innermost.operator ∧
    n.settled.items = if innermost.isComposition then some (distinct innermost.itemList) else innermost.items := by
  induction n using inductionOnSize with
  | step n ih =>
    cases hn : n.isComposition with
    | false => exact ⟨[], n, levels_of_not hn, by simp [settled_of_not hn, hn]⟩
    | true =>
      rcases only_or_several hn with ⟨only, honly, hd⟩ | hd
      · obtain ⟨outer, innermost, hlevels, hcomposes, hoperator, hitems⟩ := ih only (size_item_lt honly)
        refine ⟨n :: outer, innermost, ?_⟩
        rw [levels_of_only hn hd, settled_of_only hn hd, isComposition_lift hn]
        exact ⟨by rw [hlevels, List.cons_append], hcomposes, hoperator, hitems⟩
      · have hne : distinct n.itemList ≠ [] := fun hnil => by simp [hnil] at hd
        refine ⟨[], n, levels_of_several hn hd, ?_⟩
        rw [settled_of_several hn hd, if_pos hn, hn, isComposition_with_items hn hne]
        exact ⟨rfl, rfl, rfl⟩

end Fields

end Typeforge.Schema.Node
