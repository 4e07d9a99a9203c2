import Typeforge.Failure
import Typeforge.Proofs.Keyed
import Typeforge.Schema.Request
import Typeforge.Validator.Outline

/-!
# The references of a document

Every reference that a document writes down is in one of its schemas: those of the components, and those of
the parameters, the body and the response of an operation. What is made of a schema (a composition without
needless members, the schema of a request) writes down no reference of its own.

* `Node.settled_references`, `Node.deduplicate_references`: collapsing adds no reference;
* `Operation.requestNode_references`: nor does the schema of a request;
* `Document.resolve?_mem`: a reference leads to the schema of a component.
-/

namespace Typeforge.Schema

def Operation.nodes (o : Operation) : List Node :=
  o.parameters.map (·.schema) ++ (o.body.map (·.schema)).toList ++ o.response.toList

def Document.nodes (d : Document) : List Node := d.components.nodes ++ d.operations.flatMap Operation.nodes

def Document.references (d : Document) : List String := referencesOf d.nodes

/-- The failure at a reference of the document that leads nowhere. -/
def Document.Dangling (d : Document) (e : Failure) : Prop :=
  ∃ r ∈ d.references, d.resolve? r = none ∧ e = .danglingReference r

/-! ### The references of a node -/

section Parts

variable {r : String}

theorem referencesOf_eq (ns : List Node) : referencesOf ns = ns.flatMap Node.references := by
  induction ns with
  | nil => rfl
  | cons n ns ih => simp [referencesOf, ih]

theorem fieldReferences_eq (ps : List (String × Node)) :
    fieldReferences ps = ps.flatMap fun p => p.2.references := by
  induction ps with
  | nil => rfl
  | cons p ps ih => simp [fieldReferences, ih]

theorem mem_referencesOf {ns : List Node} : r ∈ referencesOf ns ↔ ∃ n ∈ ns, r ∈ n.references := by
  rw [referencesOf_eq, List.mem_flatMap]

theorem referencesOf_mono {ms ns : List Node} (h : ms ⊆ ns) : referencesOf ms ⊆ referencesOf ns := by
  intro r hr
  obtain ⟨n, hn, hr⟩ := mem_referencesOf.1 hr
  exact mem_referencesOf.2 ⟨n, h hn, hr⟩

theorem Node.references_eq (n : Node) :
    n.references = n.reference.toList ++ referencesOf n.itemList ++ fieldReferences n.propertyList
      ++ (n.additional.map references).getD [] := by
  obtain ⟨a, items, properties, additional⟩ := n
  cases items <;> cases properties <;> cases additional <;> simp [references, itemList, propertyList,
    referencesOf, fieldReferences]

theorem Node.mem_references {n : Node} :
    r ∈ n.references ↔ n.reference = some r ∨ r ∈ referencesOf n.itemList ∨ r ∈ fieldReferences n.propertyList
      ∨ ∃ m, n.additional = some m ∧ r ∈ m.references := by
  rw [references_eq]
  cases n.additional <;> simp

theorem Node.references_item {n m : Node} (h : m ∈ n.itemList) : m.references ⊆ n.references :=
  fun _ hr => mem_references.2 (.inr (.inl (mem_referencesOf.2 ⟨m, h, hr⟩)))

theorem Node.references_property {n : Node} {p : String × Node} (h : p ∈ n.propertyList) :
    p.2.references ⊆ n.references := by
  intro r hr
  rw [mem_references, fieldReferences_eq]
  exact .inr (.inr (.inl (List.mem_flatMap.2 ⟨p, h, hr⟩)))

theorem Node.references_additional {n m : Node} (h : n.additional = some m) : m.references ⊆ n.references :=
  fun _ hr => mem_references.2 (.inr (.inr (.inr ⟨m, h, hr⟩)))

end Parts

/-! ### Collapsing -/

namespace Node

theorem distinctFrom_sublist (seen ns : List Node) : (distinctFrom seen ns).Sublist ns := by
  induction ns generalizing seen with
  | nil => exact List.Sublist.slnil
  | cons n ns ih =>
    simp only [distinctFrom]
    split
    · exact (ih seen).cons n
    · exact (ih (n :: seen)).cons_cons n

theorem distinct_sublist (ns : List Node) : (distinct ns).Sublist ns := distinctFrom_sublist [] ns

theorem lift_references {parent child : Node} {r : String} (h : r ∈ (parent.lift child).references) :
    r ∈ parent.references ∨ r ∈ child.references := by
  rcases mem_references.1 h with h | h | h | ⟨m, h, hr⟩
  · have : child.reference = some r ∨ parent.reference = some r := by
      simp only [lift, Attributes.lift] at h
      cases hc : child.reference <;> simp_all
    exact this.symm.imp (fun h => mem_references.2 (.inl h)) fun h => mem_references.2 (.inl h)
  · exact .inr (mem_references.2 (.inr (.inl h)))
  · have : r ∈ fieldReferences child.propertyList ∨ r ∈ fieldReferences parent.propertyList := by
      simp only [lift, propertyList] at h ⊢
      cases hc : child.properties <;> simp_all
    exact this.symm.imp (fun h => mem_references.2 (.inr (.inr (.inl h))))
      fun h => mem_references.2 (.inr (.inr (.inl h)))
  · have : child.additional = some m ∨ parent.additional = some m := by
      simp only [lift] at h
      cases hc : child.additional <;> simp_all
    exact this.symm.imp (fun h => references_additional h hr) fun h => references_additional h hr

theorem references_with_items {n m : Node} (ha : m.reference = n.reference) (hp : m.properties = n.properties)
    (hd : m.additional = n.additional) (hi : m.itemList ⊆ n.itemList) : m.references ⊆ n.references := by
  intro r hr
  rcases mem_references.1 hr with h | h | h | ⟨k, h, hr⟩
  · exact mem_references.2 (.inl (ha ▸ h))
  · exact mem_references.2 (.inr (.inl (referencesOf_mono hi h)))
  · have hp' : m.propertyList = n.propertyList := by simp [propertyList, hp]
    exact mem_references.2 (.inr (.inr (.inl (hp' ▸ h))))
  · exact references_additional (hd ▸ h) hr

theorem deduplicate_references (n : Node) : n.deduplicate.references ⊆ n.references := by
  unfold deduplicate
  split
  · exact fun _ => id
  · rename_i items hitems
    have hlist : n.itemList = items := by simp [itemList, hitems]
    have hsub := (distinct_sublist items).subset
    split
    · exact fun _ => id
    · split
      · exact references_with_items rfl rfl rfl (by simp [itemList])
      · rename_i only honly _
        intro r hr
        rcases lift_references hr with h | h
        · exact h
        · exact references_item (hlist ▸ hsub (honly ▸ List.mem_singleton_self only)) h
      · exact references_with_items rfl rfl rfl (by simpa [itemList, hitems] using hsub)

theorem collapse_references (n : Node) : ∀ r ∈ n.collapse.references, r ∈ n.references := by
  fun_induction collapse n with
  | case1 n once h ih => exact fun r hr => deduplicate_references n (ih r hr)
  | case2 n once h => exact fun r hr => deduplicate_references n hr

theorem settled_references (n : Node) : n.settled.references ⊆ n.references := by
  unfold settled
  split
  · exact collapse_references n
  · exact fun _ => id

end Node

/-! ### What a reference leads to, and what an event shows -/

section Documents

variable {d : Document} {r : String} {n : Node}

theorem Components.find?_mem {c : Components} {family : Pointer.Family} {name : String}
    (h : c.find? family name = some n) : n ∈ c.nodes := by
  unfold Components.nodes
  cases family with
  | schemas =>
    have := Keyed.mem_of_get? h
    exact List.mem_append_left _ (List.mem_append_left _ (List.mem_map.2 ⟨_, this, rfl⟩))
  | parameters =>
    obtain ⟨p, hp, rfl⟩ := Option.map_eq_some_iff.1 h
    have := Keyed.mem_of_get? hp
    exact List.mem_append_left _ (List.mem_append_right _ (List.mem_map.2 ⟨_, this, rfl⟩))
  | requestBodies =>
    obtain ⟨b, hb, rfl⟩ := Option.map_eq_some_iff.1 h
    have := Keyed.mem_of_get? hb
    exact List.mem_append_right _ (List.mem_map.2 ⟨_, this, rfl⟩)

theorem Document.resolve?_mem (h : d.resolve? r = some n) : n ∈ d.components.nodes := by
  obtain ⟨⟨family, name⟩, -, h⟩ := Option.bind_eq_some_iff.1 h
  exact Components.find?_mem h

theorem Document.node?_mem {e : Event} (he : e ∈ d.events) (h : e.node? = some n) : n ∈ d.components.nodes := by
  unfold Components.nodes
  simp only [events, List.mem_append, List.mem_map] at he
  rcases he with ((⟨p, hp, rfl⟩ | ⟨p, hp, rfl⟩) | ⟨p, hp, rfl⟩) | ⟨o, ho, rfl⟩
  · cases h
    exact List.mem_append_left _ (List.mem_append_left _ (List.mem_map.2 ⟨p, hp, rfl⟩))
  · cases h
    exact List.mem_append_left _ (List.mem_append_right _ (List.mem_map.2 ⟨p, hp, rfl⟩))
  · cases h
    exact List.mem_append_right _ (List.mem_map.2 ⟨p, hp, rfl⟩)
  · cases h

theorem Document.operation_mem {o : Operation} (he : .operation o ∈ d.events) : o ∈ d.operations := by
  simpa [events] using he

theorem Document.components_references : d.components.references ⊆ d.references :=
  referencesOf_mono (List.subset_append_left _ _)

theorem Document.references_of_component (hn : n ∈ d.components.nodes) : n.references ⊆ d.components.references :=
  fun _ hr => mem_referencesOf.2 ⟨n, hn, hr⟩

theorem Document.references_of_operation {o : Operation} (ho : o ∈ d.operations) :
    referencesOf o.nodes ⊆ d.references :=
  referencesOf_mono fun _ hn => List.mem_append_right _ (List.mem_flatMap.2 ⟨o, ho, hn⟩)

end Documents

/-! ### The schema of a request -/

namespace Operation

variable {r : String}

theorem objectNode_references (properties : Keyed Node) (required : List String) :
    (objectNode properties required).references = fieldReferences properties := by
  simp [objectNode, Node.references]

theorem parametersNode_references {ps : List Parameter} (h : r ∈ (parametersNode ps).references) :
    ∃ p ∈ ps, r ∈ p.schema.references := by
  rw [parametersNode, objectNode_references, fieldReferences_eq] at h
  obtain ⟨e, he, hr⟩ := List.mem_flatMap.1 h
  obtain ⟨p, hp, rfl⟩ := List.mem_map.1 (Keyed.mem_of_mem_ofEntries he)
  exact ⟨p, hp, hr⟩

theorem parameterSections_subset {o : Operation} {s : String × List Parameter} (hs : s ∈ o.parameterSections) :
    s.2 ⊆ o.parameters := by
  obtain ⟨l, -, rfl⟩ := List.mem_map.1 (List.mem_filter.1 hs).1
  exact fun _ hp => (List.mem_filter.1 hp).1

theorem requestNode_references (o : Operation) : o.requestNode.references ⊆ referencesOf o.nodes := by
  intro r hr
  rw [requestNode, objectNode_references, fieldReferences_eq] at hr
  obtain ⟨e, he, hr⟩ := List.mem_flatMap.1 hr
  have never : r ∉ (Node.ofKind .never).references := by simp [Node.ofKind, Node.references]
  rcases Keyed.mem_foldl_put Prod.fst (fun s => parametersNode s.2) _ he with he | ⟨s, hs, rfl⟩
  · simp only [List.mem_cons, List.not_mem_nil, or_false] at he
    rcases he with rfl | rfl | rfl
    · cases hb : o.body with
      | none => rw [hb] at hr; exact absurd hr never
      | some b =>
        rw [hb] at hr
        refine mem_referencesOf.2 ⟨b.schema, ?_, hr⟩
        simp [nodes, hb]
    · exact absurd hr never
    · exact absurd hr never
  · obtain ⟨p, hp, hr⟩ := parametersNode_references hr
    refine mem_referencesOf.2 ⟨p.schema, ?_, hr⟩
    have := List.mem_map_of_mem (f := Parameter.schema) (parameterSections_subset hs hp)
    exact List.mem_append_left _ (List.mem_append_left _ this)

theorem response_references {o : Operation} {n : Node} (h : o.response = some n) :
    n.references ⊆ referencesOf o.nodes :=
  fun _ hr => mem_referencesOf.2 ⟨n, by simp [nodes, h], hr⟩

end Operation

end Typeforge.Schema
