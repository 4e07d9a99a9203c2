import Typeforge.Proofs.Types.Circles
import Typeforge.Proofs.Validator.Joins

/-!
# One round, or all of them

The validator of a composition is made of what the last round of `deduplicate` leaves, its type of what the first one
leaves, unless that is no composition any more. So the two agree just if the first round is the last one
(`shape_settled_iff`).

* `sizeOf_shape_lt`: what a composition settles to composes smaller types than its own;
* `not_record_of_same`: of two nodes that are the same, the one is no record where the other is an object;
* `agreement`: the types, and what the two plugins join.
-/

namespace Typeforge

open Code Schema

/-! ### Types that join others -/

namespace Code

/-- The types that a union or an intersection joins. -/
def Ty.joined : Ty → List Ty
  | .union members => members
  | .intersection members => members
  | .keyword _ | .literal _ | .ref _ | .array _ | .tuple _ | .object _ | .record _ _ => []

theorem Ty.sizeOf_lt_of_mem_joined {t u : Ty} (h : t ∈ u.joined) : sizeOf t < sizeOf u := by
  cases u with
  | union members | intersection members =>
    have := List.sizeOf_lt_of_mem (show t ∈ members from h)
    simp only [Ty.union.sizeOf_spec, Ty.intersection.sizeOf_spec]
    omega
  | keyword _ | literal _ | ref _ | array _ | tuple _ | object _ | record _ _ => simp [Ty.joined] at h

def Ty.isObject : Ty → Bool
  | .object _ => true
  | .record _ _ => true
  | _ => false

end Code

/-! ### What sameness keeps -/

namespace Schema.Node

section Same

variable {n m only : Node} {seen ns : List Node}

theorem same_of_distinctFrom_eq_nil (h : distinctFrom seen ns = []) : ∀ m ∈ ns, ∃ k ∈ seen, k.same m = true := by
  induction ns with
  | nil => simp
  | cons n ns ih =>
    rw [distinctFrom] at h
    split at h
    · rename_i hseen
      exact List.forall_mem_cons.2 ⟨by simpa using hseen, ih h⟩
    · cases h

theorem eq_cons_of_distinct (h : distinct ns = [only]) :
    ∃ rest, ns = only :: rest ∧ ∀ m ∈ rest, only.same m = true := by
  cases ns with
  | nil => cases h
  | cons n rest =>
    obtain ⟨rfl, hrest⟩ := List.cons.inj (show n :: distinctFrom [n] rest = [only] from h)
    refine ⟨rest, rfl, fun m hm => ?_⟩
    obtain ⟨k, hk, hsame⟩ := same_of_distinctFrom_eq_nil hrest m hm
    rwa [List.mem_singleton.1 hk] at hsame

theorem properties_of_same (h : n.same m = true) : n.properties.map List.length = m.properties.map List.length := by
  obtain ⟨a, items, properties, additional⟩ := n
  obtain ⟨b, items', properties', additional'⟩ := m
  rw [same_mk] at h
  cases properties <;> cases properties' <;> simp_all

theorem isComposition_of_same (h : n.same m = true) : n.isComposition = m.isComposition := by
  have attributes := attributes_of_same h
  simp only [Attributes.same, Bool.and_eq_true, decide_eq_true_eq] at attributes
  obtain ⟨a, items, properties, additional⟩ := n
  obtain ⟨b, items', properties', additional'⟩ := m
  rw [same_mk] at h
  have items : (items.any fun items => !items.isEmpty) = items'.any fun items => !items.isEmpty := by
    cases items with
    | none => cases items' <;> simp_all
    | some ns =>
      cases items' with
      | none => simp at h
      | some ms =>
        simp only [Bool.and_eq_true] at h
        have hlength := sameList_length h.1.1.2
        cases ns <;> cases ms <;> simp_all
  simp_all [isComposition]

/-- The node, with its first item lifted if it is a composition. -/
def first (n : Node) : Node :=
  match n.itemList with
  | [] => n
  | m :: _ => if n.isComposition then n.lift m else n

theorem propertyList_first_of_same (h : n.same m = true) :
    n.first.propertyList.length = m.first.propertyList.length := by
  have length (n : Node) : n.propertyList.length = (n.properties.map List.length).getD 0 := by
    unfold propertyList
    cases n.properties <;> rfl
  rw [length, length]
  have properties := properties_of_same h
  have items := sameList_of_same h
  unfold first
  rw [← isComposition_of_same h]
  cases hn : n.itemList with
  | nil =>
    cases hm : m.itemList with
    | nil => rw [properties]
    | cons l ls => simp [hn, hm, sameList] at items
  | cons k ks =>
    cases hm : m.itemList with
    | nil => simp [hn, hm, sameList] at items
    | cons l ls =>
      simp only [hn, hm, sameList, Bool.and_eq_true] at items
      have inner := properties_of_same items.1
      simp only
      split
      · simp only [lift]
        cases hk : k.properties <;> cases hl : l.properties <;> simp_all
      · rw [properties]

end Same

end Schema.Node

namespace Types

def joinType (operator : Option Operator) (ts : List Ty) : Ty :=
  if operator = some .and then .intersection ts else .union ts

@[simp] theorem joined_joinType (operator : Option Operator) (ts : List Ty) : (joinType operator ts).joined = ts := by
  unfold joinType
  split <;> rfl

section Shape

variable {n m : Node}

theorem shape_joined (hc : n.const = none) (h : n.isComposition = true) (hd : n.deduplicate.isComposition = true) :
    shape n = joinType n.deduplicate.operator (shapes n.deduplicate.itemList) := by
  obtain ⟨hk, hr⟩ := kind_of_isComposition h
  rw [shape, hr, hk, hc]
  simp [h, hd, joinType]

/-- The type of a constant, unless the node is a reference. -/
theorem shape_const {v : Json.Value} (h : n.const = some v) : (∃ r, shape n = .ref r) ∨ shape n = .ofValue v := by
  rw [shape, h]
  cases n.reference <;> cases n.kind
  · exact .inr rfl
  · exact .inr rfl
  · exact .inl ⟨_, rfl⟩
  · exact .inr rfl

theorem const_of_joined (h : (shape n).joined ≠ []) : n.const = none := by
  cases hc : n.const with
  | none => rfl
  | some v =>
    rcases shape_const hc with ⟨r, hr⟩ | hv
    · rw [hr] at h
      exact absurd rfl h
    · rw [hv] at h
      cases v <;> exact absurd rfl h

theorem memberType_cases {a : Attributes} {t : Ty} (h : memberType? a = some t) :
    (∃ v, t = .ofValue v) ∨ t = .literal .null := by
  unfold memberType? at h
  split at h
  · cases h
    exact .inl ⟨_, rfl⟩
  · split at h
    · cases h
      exact .inr rfl
    · cases h

/-- An enumeration is a member, joins members, or admits every value. -/
theorem enumerationType_cases (as : List Attributes) :
    (∃ a ∈ as, memberType? a = some (enumerationType as)) ∨
      (∃ ts, enumerationType as = .union ts ∧ ∀ t ∈ ts, ∃ a ∈ as, memberType? a = some t) ∨
      enumerationType as = .keyword .unknown := by
  have members : ∀ t ∈ distinctTypes (as.filterMap memberType?), ∃ a ∈ as, memberType? a = some t :=
    fun t ht => List.mem_filterMap.1 (distinctTypes_subset _ ht)
  unfold enumerationType
  split
  · exact .inr (.inr rfl)
  · rename_i t ht
    exact .inl (members t (ht ▸ List.mem_cons_self))
  · exact .inr (.inl ⟨_, rfl, members⟩)

theorem joined_memberType {a : Attributes} {t : Ty} (h : memberType? a = some t) : t.joined = [] := by
  rcases memberType_cases h with ⟨v, rfl⟩ | rfl
  · cases v <;> rfl
  · rfl

theorem joined_enumerationType {as : List Attributes} {t : Ty} (h : t ∈ (enumerationType as).joined) :
    t.joined = [] := by
  rcases enumerationType_cases as with ⟨a, -, ha⟩ | ⟨ts, hts, members⟩ | hunknown
  · rw [joined_memberType ha] at h
    cases h
  · rw [hts] at h
    obtain ⟨a, -, ha⟩ := members t h
    exact joined_memberType ha
  · rw [hunknown] at h
    cases h

theorem shape_enumeration (hk : n.kind = some .enumeration) (hc : n.const = none) :
    shape n = enumerationType (n.itemList.map Node.toAttributes) := by
  rw [shape, hk, hc]
  cases n.reference <;> rfl

theorem joined_objectShape (h : (objectShape n).joined ≠ []) :
    ∃ ms value, (objectShape n).joined = [.object ms, .stringRecord value] := by
  rw [objectShape] at h ⊢
  split at h
  · exact ⟨_, _, rfl⟩
  all_goals exact absurd rfl h

theorem properties_of_object {ms : List (Member Ty)} (h : objectShape n = .object ms) : n.propertyList.length ≠ 0 := by
  rw [objectShape] at h
  split at h
  · cases h
  · rename_i hne _
    simpa using hne
  · simp [Ty.stringRecord] at h
  · simp [Ty.unknownRecord, Ty.stringRecord] at h

theorem properties_of_record {key value : Ty} (h : objectShape n = .record key value) : n.propertyList.length = 0 := by
  rw [objectShape] at h
  split at h
  · cases h
  · cases h
  all_goals
    rename_i hnil _
    simpa using hnil

/-- Apart from compositions, only enumerations and objects join types or are objects. -/
theorem shape_plain (hn : n.isComposition = false) (he : n.kind ≠ some .enumeration) (ho : n.kind ≠ some .object) :
    (shape n).joined = [] ∧ (shape n).isObject = false := by
  rw [shape]
  split
  · exact ⟨rfl, rfl⟩
  · rename_i v _ _
    cases v <;> exact ⟨rfl, rfl⟩
  · rw [dif_neg (by simp [hn])]
    exact ⟨rfl, rfl⟩
  · rename_i kind hk _
    cases kind with
    | enumeration => exact absurd hk he
    | object => exact absurd hk ho
    | array =>
      simp only
      split <;> exact ⟨rfl, rfl⟩
    | boolean | integer | never | null | number | string | tuple | undefined | unknown | void => exact ⟨rfl, rfl⟩

theorem isObject_enumerationType (as : List Attributes) : (enumerationType as).isObject = false := by
  rcases enumerationType_cases as with ⟨a, -, ha⟩ | ⟨ts, hts, -⟩ | hunknown
  · rcases memberType_cases ha with ⟨v, hv⟩ | hnull
    · rw [hv]
      cases v <;> rfl
    · rw [hnull]
      rfl
  · rw [hts]
    rfl
  · rw [hunknown]
    rfl

theorem const_of_isObject (h : (shape n).isObject = true) : n.const = none := by
  cases hc : n.const with
  | none => rfl
  | some v =>
    rcases shape_const hc with ⟨r, hr⟩ | hv
    · rw [hr] at h
      cases h
    · rw [hv] at h
      cases v <;> cases h

theorem shape_of_isObject (hn : n.isComposition = false) (h : (shape n).isObject = true) : shape n = objectShape n := by
  have hc := const_of_isObject h
  by_cases ho : n.kind = some .object
  · exact shape_object ho hc
  · by_cases he : n.kind = some .enumeration
    · rw [shape_enumeration he hc, isObject_enumerationType] at h
      cases h
    · rw [(shape_plain hn he ho).2] at h
      cases h

theorem joined_of_isObject {t : Ty} (h : t.isObject = true) : t.joined = [] := by
  cases t <;> first | rfl | cases h

/-! ### The first item -/

theorem shapes_ne_nil {ns : List Node} (h : ns ≠ []) : shapes ns ≠ [] := by
  rw [shapes_eq]
  simpa using h

/-- A node that has no constant and whose type joins nothing is what its first item makes of it, and so is its type. -/
theorem settled_of_unjoined (hc : n.const = none) (hj : (shape n).joined = []) :
    n.settled = n.first ∧ n.settled.isComposition = false ∧ shape n = shape n.settled := by
  cases hn : n.isComposition with
  | false =>
    have hfirst : n.first = n := by
      unfold Node.first
      split <;> simp [hn]
    rw [Node.settled_of_not hn, hfirst]
    exact ⟨rfl, hn, rfl⟩
  | true =>
    cases hd : n.deduplicate.isComposition with
    | true =>
      obtain ⟨-, -, hne⟩ := Node.items_of_isComposition hd
      rw [shape_joined hc hn hd, joined_joinType] at hj
      exact absurd hj (shapes_ne_nil hne)
    | false =>
      have hsettled : n.settled = n.deduplicate := by rw [← Node.settled_deduplicate hn, Node.settled_of_not hd]
      rw [hsettled]
      refine ⟨?_, hd, shape_lifted hc hn hd⟩
      rcases Node.only_or_several hn with ⟨only, -, honly⟩ | hseveral
      · obtain ⟨rest, hrest, -⟩ := Node.eq_cons_of_distinct honly
        rw [Node.deduplicate_of_only hn honly, Node.first, hrest]
        simp [hn]
      · rw [Node.deduplicate_of_several hn hseveral,
          Node.isComposition_with_items hn fun hnil => by simp [hnil] at hseveral] at hd
        cases hd

/-- Of two nodes that are the same, the one is no record where the other is an object. -/
theorem not_record_of_same {ms : List (Member Ty)} {key value : Ty} (h : n.same m = true) (hn : shape n = .object ms) :
    shape m ≠ .record key value := by
  intro hm
  have hobject : (shape n).isObject = true := by rw [hn]; rfl
  have hrecord : (shape m).isObject = true := by rw [hm]; rfl
  obtain ⟨hfirst, hc, hshape⟩ := settled_of_unjoined (const_of_isObject hobject) (joined_of_isObject hobject)
  obtain ⟨hfirst', hc', hshape'⟩ := settled_of_unjoined (const_of_isObject hrecord) (joined_of_isObject hrecord)
  -- what decides between the two is whether there are properties
  rw [hshape, shape_of_isObject hc (hshape ▸ hobject), hfirst] at hn
  rw [hshape', shape_of_isObject hc' (hshape' ▸ hrecord), hfirst'] at hm
  exact properties_of_object hn ((Node.propertyList_first_of_same h).trans (properties_of_record hm))

/-! ### Later rounds -/

/-- What a composition settles to composes smaller types than the composition has. -/
theorem sizeOf_shape_lt (hs : n.settled.isComposition = true) (hc : n.settled.const = none) :
    ∀ m ∈ n.settled.itemList, sizeOf (shape m) < sizeOf (shape n) := by
  induction n using Node.inductionOnSize with
  | step n ih =>
    intro m hm
    have hn := Node.isComposition_of_settled hs
    have hd := Node.isComposition_deduplicate hs
    have item {o : Node} (ho : o ∈ n.deduplicate.itemList) : sizeOf (shape o) < sizeOf (shape n) := by
      refine Ty.sizeOf_lt_of_mem_joined ?_
      rw [shape_joined (Node.IsField.const.of_settled hc) hn hd, joined_joinType, shapes_eq]
      exact List.mem_map_of_mem ho
    rw [← Node.settled_deduplicate hn] at hs hc hm
    rcases Node.only_or_several hd with ⟨o, ho, honly⟩ | hseveral
    · -- the round after the first lifts `o`, whose own rounds lead on
      rw [Node.settled_of_only hd honly] at hs hc hm
      rw [Node.isComposition_lift hd] at hs
      rw [Node.IsField.const.lift, Option.or_eq_none_iff] at hc
      have hsize : o.size < n.size := Nat.lt_of_lt_of_le (Node.size_item_lt ho) n.size_deduplicate_le
      exact Nat.lt_trans (ih o hsize hs hc.1 m hm) (item ho)
    · rw [Node.settled_of_several hd hseveral] at hm
      exact item ((Node.distinct_sublist _).subset hm)

/-- One round is enough: it leaves no composition, or one that the next round does not change and that is no
constant. -/
def OneRound (n : Node) : Prop :=
  n.deduplicate.isComposition = false ∨ n.deduplicate.deduplicate = n.deduplicate ∧ n.deduplicate.const = none

theorem shape_settled_of_oneRound (hn : n.isComposition = true) (hc : n.const = none) (h : OneRound n) :
    shape n = shape n.settled := by
  rw [← Node.settled_deduplicate hn]
  cases hd : n.deduplicate.isComposition with
  | false => rw [Node.settled_of_not hd, shape_lifted hc hn hd]
  | true =>
    obtain ⟨hfixed, hconst⟩ := h.resolve_left (by simp [hd])
    rw [Node.settled_of_fixed hfixed, shape_joined hc hn hd, shape_joined hconst hd (by rwa [hfixed]), hfixed]

section Lifted

variable {only : Node}

theorem itemList_settled_of_only (hn : n.isComposition = true) (honly : Node.distinct n.itemList = [only]) :
    n.settled.itemList = only.settled.itemList := by
  rw [Node.settled_of_only hn honly]
  rfl

theorem const_settled_of_only (hn : n.isComposition = true) (honly : Node.distinct n.itemList = [only])
    (hc : n.settled.const = none) : only.settled.const = none := by
  rw [Node.settled_of_only hn honly, Node.IsField.const.lift, Option.or_eq_none_iff] at hc
  exact hc.1

/-- A composition does not join the type of an item that it lifts: it joins those of what the item settles to. -/
theorem shape_not_mem_of_composition (hn : n.isComposition = true) (honly : Node.distinct n.itemList = [only])
    (hc : n.settled.const = none) (hs : n.settled.isComposition = true) : shape only ∉ (shape n.settled).joined := by
  intro hmem
  have hsettled := Node.settled_of_only hn honly
  have hfixed := Node.deduplicate_settled hs
  have honlySettled : only.settled.isComposition = true := by rwa [hsettled, Node.isComposition_lift hn] at hs
  rw [shape_joined hc hs (by rwa [hfixed]), joined_joinType, hfixed, itemList_settled_of_only hn honly, shapes_eq]
    at hmem
  obtain ⟨m, hm, heq⟩ := List.mem_map.1 hmem
  have hlt := sizeOf_shape_lt honlySettled (const_settled_of_only hn honly hc) m hm
  rw [heq] at hlt
  exact Nat.lt_irrefl _ hlt

/-- Nor does an enumeration: the item would be an enumeration among its own members. -/
theorem shape_not_mem_of_enumeration (hn : n.isComposition = true) (honly : Node.distinct n.itemList = [only])
    (hc : n.settled.const = none) (he : n.settled.kind = some .enumeration) :
    shape only ∉ (shape n.settled).joined := by
  intro hmem
  have hsettled := Node.settled_of_only hn honly
  have honlyConst := const_settled_of_only hn honly hc
  have hkind : only.settled.kind = some .enumeration := by
    rw [hsettled, Node.IsField.kind.lift, (kind_of_isComposition hn).1, Option.or_none] at he
    exact he
  have henumeration := shape_enumeration he hc
  have hunjoined : (shape only).joined = [] := by
    rw [henumeration] at hmem
    exact joined_enumerationType hmem
  obtain ⟨-, -, hshape⟩ := settled_of_unjoined (Node.IsField.const.of_settled honlyConst) hunjoined
  rw [hshape, shape_enumeration hkind honlyConst, ← itemList_settled_of_only hn honly, ← henumeration] at hunjoined
  rw [hunjoined] at hmem
  cases hmem

/-- Where a round would lift an item out of the composition, what the composition settles to does not join the types
of the items. -/
theorem joined_settled_ne (hn : n.isComposition = true) (honly : Node.distinct n.itemList = [only]) :
    (shape n.settled).joined ≠ shapes n.itemList := by
  intro joined
  obtain ⟨rest, hrest, hsame⟩ := Node.eq_cons_of_distinct honly
  have hmem : shape only ∈ (shape n.settled).joined := by
    rw [joined, shapes_eq, hrest]
    exact List.mem_map_of_mem List.mem_cons_self
  have hc := const_of_joined (List.ne_nil_of_mem hmem)
  cases hs : n.settled.isComposition with
  | true => exact shape_not_mem_of_composition hn honly hc hs hmem
  | false =>
    by_cases he : n.settled.kind = some .enumeration
    · exact shape_not_mem_of_enumeration hn honly hc he hmem
    by_cases ho : n.settled.kind = some .object
    · -- the first item would be an object and the second one, which is the same, a record
      rw [shape_object ho hc] at joined hmem
      obtain ⟨ms, value, hobject⟩ := joined_objectShape (List.ne_nil_of_mem hmem)
      rw [joined, shapes_eq, hrest] at hobject
      obtain ⟨hfirst, hsecond⟩ := List.cons.inj hobject
      obtain ⟨second, hsecondMem, hrecord⟩ := List.mem_map.1 (hsecond ▸ List.mem_cons_self)
      exact not_record_of_same (hsame second hsecondMem) hfirst hrecord
    · rw [(shape_plain hs he ho).1] at hmem
      cases hmem

end Lifted

theorem oneRound_of_shape_settled (hn : n.isComposition = true) (hc : n.const = none)
    (h : shape n = shape n.settled) : OneRound n := by
  cases hd : n.deduplicate.isComposition with
  | false => exact .inl hd
  | true =>
    obtain ⟨-, -, hne⟩ := Node.items_of_isComposition hd
    have joined : (shape n.deduplicate.settled).joined = shapes n.deduplicate.itemList := by
      rw [Node.settled_deduplicate hn, ← h, shape_joined hc hn hd, joined_joinType]
    have hconst := const_of_joined (joined ▸ shapes_ne_nil hne)
    refine .inr ⟨?_, Node.IsField.const.of_settled hconst⟩
    rcases Node.only_or_several hd with ⟨only, -, honly⟩ | hseveral
    · exact absurd joined (joined_settled_ne hd honly)
    · -- the settled node joins as many types as it has items
      have hround := Node.deduplicate_of_several hd hseveral
      have hsettled : n.deduplicate.settled = n.deduplicate.deduplicate := by
        rw [hround, Node.settled_of_several hd hseveral]
      have hs : n.deduplicate.settled.isComposition = true := by
        rw [hsettled, hround]
        exact Node.isComposition_with_items hd fun hnil => by simp [hnil] at hseveral
      have hfixed := Node.deduplicate_settled hs
      rw [shape_joined hconst hs (by rwa [hfixed]), joined_joinType, hfixed, hsettled, hround, shapes_eq, shapes_eq]
        at joined
      have hlength : (Node.distinct n.deduplicate.itemList).length = n.deduplicate.itemList.length := by
        have hlength := congrArg List.length joined
        rw [List.length_map, List.length_map] at hlength
        exact hlength
      rw [hround, (Node.distinct_sublist _).eq_of_length hlength]
      exact Node.with_itemList hd

/-- **The type of a composition is that of what it settles to just if one round is enough.** -/
theorem shape_settled_iff (hn : n.isComposition = true) (hc : n.const = none) :
    shape n = shape n.settled ↔ OneRound n :=
  ⟨oneRound_of_shape_settled hn hc, shape_settled_of_oneRound hn hc⟩

end Shape

/-! ### The two plugins -/

/-- What the two plugins make of the composition `n`, which settles to `N`. -/
structure Agreement (n N : Node) : Prop where
  /-- They agree on the type just if one round is enough. -/
  type_iff : shape n = shape N ↔ OneRound n
  /-- Then naming the references of the one type comes to the same as naming those of the other. -/
  naming : OneRound n → ∀ options document,
    (shape n).naming (nameOfTarget options document) = (shape N).naming (nameOfTarget options document)
  /-- And if `N` is still a composition, then the type and the validator join one member for each of its items. -/
  joins : OneRound n → N.isComposition = true → shape n = joinType N.operator (N.itemList.map shape) ∧
    ∀ metadata optional, Validator.outline metadata n optional =
      Validator.finish metadata optional N.toAttributes
        (.make (if N.operator = some .and then .intersect else .union)
          [.list (N.itemList.map fun m => .pipe (Validator.outline metadata m false))])
  /-- Otherwise the type joins what the first round leaves. -/
  otherwise : ¬ OneRound n →
    shape n = joinType n.deduplicate.operator (n.deduplicate.itemList.map shape)

/-- **The two plugins agree on a composition just if one round is enough.** -/
theorem agreement {n : Node} (hn : n.isComposition = true) (hc : n.const = none) : Agreement n n.collapse := by
  rw [← Node.settled_of_isComposition hn]
  refine { type_iff := shape_settled_iff hn hc, naming := fun h _ _ => by rw [shape_settled_of_oneRound hn hc h],
           joins := fun h hN => ⟨?_, fun metadata optional => ?_⟩, otherwise := fun h => ?_ }
  · have hd := Node.isComposition_deduplicate hN
    obtain ⟨hfixed, -⟩ := h.resolve_left (by simp [hd])
    rw [shape_joined hc hn hd, shapes_eq, ← Node.settled_deduplicate hn, Node.settled_of_fixed hfixed]
  · rw [Validator.outline, Validator.base_of_isComposition metadata hN, Validator.members_eq]
  · have hd : n.deduplicate.isComposition = true := by
      cases hd : n.deduplicate.isComposition with
      | true => rfl
      | false => exact absurd (.inl hd) h
    rw [shape_joined hc hn hd, shapes_eq]

/-- A text or nothing, and the text is said twice. -/
def repeatedRaw : Json.Raw :=
  .object [
    ("items", .array [
      .object [("type", .string "string")],
      .object [("type", .string "string")],
      .object [("type", .string "null")]]),
    ("logicalOperator", .string "or")]

def repeated : Node where
  items := some [.ofKind .string, .ofKind .string, .ofKind .null]
  operator := some .or

/-- One round leaves the text and nothing. -/
theorem repeated_agreement : Node.decode 8 repeatedRaw = some repeated ∧ OneRound repeated ∧
    Agreement repeated repeated.collapse := by
  have hdecode : Node.decode 8 repeatedRaw = some repeated := by rfl
  exact ⟨hdecode, .inr ⟨rfl, rfl⟩, agreement (by rfl) rfl⟩

/-- One composition in another, and the inner one says its text twice. -/
def twiceRaw : Json.Raw :=
  .object [
    ("items", .array [.object [
      ("items", .array [
        .object [("type", .string "string")],
        .object [("type", .string "string")]]),
      ("logicalOperator", .string "or")]]),
    ("logicalOperator", .string "or")]

def twice : Node where
  items := some [{ items := some [.ofKind .string, .ofKind .string], operator := some .or }]
  operator := some .or

/-- The validator is that of a text, and the type joins the text with itself. -/
theorem twice_disagrees : Node.decode 8 twiceRaw = some twice ∧ twice.isComposition = true ∧ twice.const = none ∧
    twice.collapse = .ofKind .string ∧ shape twice = .union [.keyword .string, .keyword .string] ∧
    shape twice.collapse = .keyword .string ∧
    Validator.outline false twice false = [.closed (Validator.Maker.string.apply [])] := by
  have hdecode : Node.decode 8 twiceRaw = some twice := by rfl
  have hcollapse : twice.collapse = .ofKind .string := by
    rw [Node.collapse_of_size_lt (by decide), if_pos (by rfl), Node.collapse_of_size_lt (by decide), if_neg (by decide)]
    rfl
  have htext : shape (.ofKind .string) = .keyword .string := by
    rw [shape]
    rfl
  refine ⟨hdecode, rfl, rfl, hcollapse, ?_, by rw [hcollapse, htext], ?_⟩
  · rw [shape_joined rfl rfl rfl, shapes_eq]
    show Ty.union [shape (.ofKind .string), shape (.ofKind .string)] = _
    rw [htext]
  · rw [Validator.outline, Node.settled_of_isComposition (by rfl), hcollapse, Validator.base]
    simp only [Node.ofKind]
    rw [Validator.kindBase]
    rfl

end Types

end Typeforge
