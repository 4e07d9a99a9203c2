import Typeforge.Proofs.Schema.Parts
import Typeforge.Proofs.Schema.References
import Typeforge.Proofs.Steps
import Typeforge.Types.Plugin

/-!
# The references of a type

The references that a type refers to stand in one list, from left to right: `refs`. Naming a type is a run
over this list and then putting the names in their places (`naming_eq`).

The type of a node refers only to references that the node writes down (`shape_refs`); the induction is on
the size of the node, since a composition is looked at again after a round of `deduplicate`.
-/

namespace Typeforge.Code

mutual

def Ty.refs : Ty → List String
  | .keyword _ | .literal _ => []
  | .ref r => [r]
  | .array element => element.refs
  | .tuple elements => refsOf elements
  | .union members => refsOf members
  | .intersection members => refsOf members
  | .object members => memberRefs members
  | .record key value => key.refs ++ value.refs

def refsOf : List Ty → List String
  | [] => []
  | t :: ts => t.refs ++ refsOf ts

def memberRefs : List (Member Ty) → List String
  | [] => []
  | ⟨_, type, _, _⟩ :: ms => type.refs ++ memberRefs ms

end

mutual

/-- The type with the names in the places of what it refers to, from left to right. -/
def Ty.renamed : Ty → List String → Ty
  | .keyword k, _ => .keyword k
  | .literal l, _ => .literal l
  | .ref _, name :: _ => .ref name
  | .ref r, [] => .ref r
  | .array element, names => .array (element.renamed names)
  | .tuple elements, names => .tuple (renamedTypes elements names)
  | .union members, names => .union (renamedTypes members names)
  | .intersection members, names => .intersection (renamedTypes members names)
  | .object members, names => .object (renamedMembers members names)
  | .record key value, names =>
    .record (key.renamed (names.take key.refs.length)) (value.renamed (names.drop key.refs.length))

def renamedTypes : List Ty → List String → List Ty
  | [], _ => []
  | t :: ts, names => t.renamed (names.take t.refs.length) :: renamedTypes ts (names.drop t.refs.length)

def renamedMembers : List (Member Ty) → List String → List (Member Ty)
  | [], _ => []
  | ⟨name, type, optional, readonly⟩ :: ms, names =>
    ⟨name, type.renamed (names.take type.refs.length), optional, readonly⟩
      :: renamedMembers ms (names.drop type.refs.length)

end

theorem refsOf_eq (ts : List Ty) : refsOf ts = ts.flatMap Ty.refs := by
  induction ts with
  | nil => rfl
  | cons t ts ih => simp [refsOf, ih]

theorem memberRefs_eq (ms : List (Member Ty)) : memberRefs ms = ms.flatMap fun m => m.type.refs := by
  induction ms with
  | nil => rfl
  | cons m ms ih => simp [memberRefs, ih]

mutual

theorem refs_renamed : ∀ (t : Ty) (names : List String), names.length = t.refs.length → (t.renamed names).refs = names
  | .keyword _, names, h | .literal _, names, h => (List.length_eq_zero_iff.1 h).symm
  | .ref _, [_], _ => rfl
  | .array element, names, h => refs_renamed element names h
  | .tuple elements, names, h => refsOf_renamedTypes elements names h
  | .union members, names, h => refsOf_renamedTypes members names h
  | .intersection members, names, h => refsOf_renamedTypes members names h
  | .object members, names, h => memberRefs_renamedMembers members names h
  | .record key value, names, h => by
    rw [Ty.refs, List.length_append] at h
    rw [Ty.renamed, Ty.refs, refs_renamed key _ (by rw [List.length_take]; omega),
      refs_renamed value _ (by rw [List.length_drop]; omega), List.take_append_drop]

theorem refsOf_renamedTypes :
    ∀ (ts : List Ty) (names : List String), names.length = (refsOf ts).length → refsOf (renamedTypes ts names) = names
  | [], names, h => (List.length_eq_zero_iff.1 h).symm
  | t :: ts, names, h => by
    rw [refsOf, List.length_append] at h
    rw [renamedTypes, refsOf, refs_renamed t _ (by rw [List.length_take]; omega),
      refsOf_renamedTypes ts _ (by rw [List.length_drop]; omega), List.take_append_drop]

theorem memberRefs_renamedMembers : ∀ (ms : List (Member Ty)) (names : List String),
    names.length = (memberRefs ms).length → memberRefs (renamedMembers ms names) = names
  | [], names, h => (List.length_eq_zero_iff.1 h).symm
  | ⟨_, type, _, _⟩ :: ms, names, h => by
    rw [memberRefs, List.length_append] at h
    rw [renamedMembers, memberRefs, refs_renamed type _ (by rw [List.length_take]; omega),
      memberRefs_renamedMembers ms _ (by rw [List.length_drop]; omega), List.take_append_drop]

end

/-! ### Naming -/

section Naming

variable {m : Type → Type} [Monad m] [LawfulMonad m] (f : String → m String)

mutual

/-- **Naming a type is a run over what it refers to.** -/
theorem naming_eq : ∀ t : Ty, t.naming f = t.refs.mapM f >>= fun names => pure (t.renamed names)
  | .keyword k => by simp [Ty.naming, Ty.refs, Ty.renamed]
  | .literal l => by simp [Ty.naming, Ty.refs, Ty.renamed]
  | .ref r => by simp [Ty.naming, Ty.refs, Ty.renamed]
  | .array element => by simp [Ty.naming, Ty.refs, Ty.renamed, naming_eq element]
  | .tuple elements => by simp [Ty.naming, Ty.refs, Ty.renamed, namingTypes_eq elements]
  | .union members => by simp [Ty.naming, Ty.refs, Ty.renamed, namingTypes_eq members]
  | .intersection members => by simp [Ty.naming, Ty.refs, Ty.renamed, namingTypes_eq members]
  | .object members => by simp [Ty.naming, Ty.refs, Ty.renamed, namingMembers_eq members]
  | .record key value => by
    simp only [Ty.naming, Ty.refs, Ty.renamed, naming_eq key, naming_eq value, bind_assoc, pure_bind]
    exact (mapM_append_bind f _ _ fun ks vs => pure (Ty.record (key.renamed ks) (value.renamed vs))).symm

theorem namingTypes_eq :
    ∀ ts : List Ty, namingTypes f ts = (refsOf ts).mapM f >>= fun names => pure (renamedTypes ts names)
  | [] => by simp [namingTypes, refsOf, renamedTypes]
  | t :: ts => by
    simp only [namingTypes, refsOf, renamedTypes, naming_eq t, namingTypes_eq ts, bind_assoc, pure_bind]
    exact (mapM_append_bind f _ _ fun bs bs' => pure (t.renamed bs :: renamedTypes ts bs')).symm

theorem namingMembers_eq : ∀ ms : List (Member Ty),
    namingMembers f ms = (memberRefs ms).mapM f >>= fun names => pure (renamedMembers ms names)
  | [] => by simp [namingMembers, memberRefs, renamedMembers]
  | ⟨name, type, optional, readonly⟩ :: ms => by
    simp only [namingMembers, memberRefs, renamedMembers, naming_eq type, namingMembers_eq ms, bind_assoc, pure_bind]
    exact (mapM_append_bind f _ _ fun bs bs' =>
      pure (⟨name, type.renamed bs, optional, readonly⟩ :: renamedMembers ms bs')).symm

end

end Naming

/-! ### Types without references -/

mutual

@[simp] theorem refs_ofValue : ∀ v : Json.Value, (Ty.ofValue v).refs = []
  | .null | .bool _ | .number _ | .string _ | .object _ => by simp [Ty.ofValue, Ty.refs]
  | .array items => by simp [Ty.ofValue, Ty.refs, refsOf_typesOfValues items]

theorem refsOf_typesOfValues : ∀ vs : List Json.Value, refsOf (typesOfValues vs) = []
  | [] => rfl
  | v :: vs => by simp [typesOfValues, refsOf, refs_ofValue v, refsOf_typesOfValues vs]

end

end Typeforge.Code

namespace Typeforge.Types

open Code Schema

/-! ### The type of a node -/

theorem distinctTypes_subset (ts : List Ty) : distinctTypes ts ⊆ ts := by
  have step (kept : List Ty) : ts.foldl (fun kept t => if kept.any fun u => u.same t then kept else kept ++ [t]) kept
      ⊆ kept ++ ts := by
    induction ts generalizing kept with
    | nil => simp
    | cons t ts ih =>
      rw [List.foldl_cons]
      refine List.Subset.trans (ih _) ?_
      split <;> simp
  exact step []

theorem refs_enumerationType (members : List Attributes) : (enumerationType members).refs = [] := by
  have closed : ∀ t ∈ distinctTypes (members.filterMap memberType?), t.refs = [] := by
    intro t ht
    obtain ⟨a, -, ha⟩ := List.mem_filterMap.1 (distinctTypes_subset _ ht)
    unfold memberType? at ha
    split at ha
    · cases ha
      exact refs_ofValue _
    · split at ha
      · cases ha
        rfl
      · cases ha
  unfold enumerationType
  split
  · rfl
  · rename_i t heq
    exact closed t (heq ▸ List.mem_singleton_self t)
  · rw [Ty.refs, refsOf_eq, List.flatMap_eq_nil_iff]
    exact closed

theorem shapes_eq (ns : List Node) : shapes ns = ns.map shape := by
  induction ns with
  | nil => simp [shapes]
  | cons n ns ih => rw [shapes, ih, List.map_cons]

theorem memberShapes_eq (required : String → Bool) (ps : List (String × Node)) :
    memberShapes required ps
      = ps.map fun p => ⟨p.1, shape p.2, !required p.1, p.2.accessScope = some .read⟩ := by
  induction ps with
  | nil => simp [memberShapes]
  | cons p ps ih => rw [memberShapes, ih, List.map_cons]

/-- The types of smaller nodes refer only to what those nodes write down. -/
def SmallerRefs (n : Node) : Prop := ∀ m : Node, m.size < n.size → ∀ r ∈ (shape m).refs, r ∈ m.references

section Shape

variable {n : Node}

theorem refsOf_shapes {ns : List Node} {r : String} (hr : r ∈ refsOf (shapes ns)) :
    ∃ m ∈ ns, r ∈ (shape m).refs := by
  rw [refsOf_eq, shapes_eq, List.flatMap_map] at hr
  exact List.mem_flatMap.1 hr

theorem items_refs (ih : SmallerRefs n) : ∀ r ∈ refsOf (shapes n.itemList), r ∈ n.references := by
  intro r hr
  obtain ⟨m, hm, hr⟩ := refsOf_shapes hr
  exact Node.references_item hm (ih m (Node.size_item_lt hm) r hr)

theorem deduplicated_refs (ih : SmallerRefs n) :
    ∀ r ∈ refsOf (shapes n.deduplicate.itemList), r ∈ n.references := by
  intro r hr
  obtain ⟨m, hm, hr⟩ := refsOf_shapes hr
  refine n.deduplicate_references (Node.references_item hm (ih m ?_ r hr))
  exact Nat.lt_of_lt_of_le (Node.size_item_lt hm) n.size_deduplicate_le

theorem members_refs (ih : SmallerRefs n) (required : String → Bool) :
    ∀ r ∈ memberRefs (memberShapes required n.propertyList), r ∈ n.references := by
  intro r hr
  rw [memberRefs_eq, memberShapes_eq, List.flatMap_map] at hr
  obtain ⟨p, hp, hr⟩ := List.mem_flatMap.1 hr
  exact Node.references_property hp (ih p.2 (Node.size_property_lt hp) r hr)

theorem objectShape_refs (ih : SmallerRefs n) : ∀ r ∈ (objectShape n).refs, r ∈ n.references := by
  have additional (m : Node) (hm : n.additional = some m) : ∀ r ∈ (shape m).refs, r ∈ n.references := fun r hr =>
    Node.references_additional hm (ih m (Node.size_additional_lt hm) r hr)
  intro r hr
  rw [objectShape] at hr
  split at hr
  · rename_i m _ hm
    simp only [Ty.refs, refsOf, Ty.stringRecord, List.append_nil, List.nil_append, List.mem_append] at hr
    rcases hr with hr | hr
    · exact members_refs ih _ r hr
    · exact additional m hm r hr
  · exact members_refs ih _ r hr
  · rename_i m _ hm
    simp only [Ty.refs, Ty.stringRecord, List.nil_append] at hr
    exact additional m hm r hr
  · simp [Ty.unknownRecord, Ty.stringRecord, Ty.refs] at hr

end Shape

/-- **The type of a node refers only to references of the node.** -/
theorem shape_refs (n : Node) : ∀ r ∈ (shape n).refs, r ∈ n.references := by
  induction n using Node.inductionOnSize with
  | step n ih =>
    intro r hr
    rw [shape] at hr
    split at hr
    · rename_i r' hr' _
      rw [Ty.refs, List.mem_singleton] at hr
      exact Node.mem_references.2 (.inl (hr ▸ hr'))
    · simp at hr
    · split at hr
      · rename_i hc
        split at hr
        · split at hr <;> exact deduplicated_refs ih r hr
        · rename_i hd
          have hlt := Node.size_deduplicate_lt hc (by simpa using hd)
          exact n.deduplicate_references (ih _ hlt r hr)
      · simp [Ty.refs] at hr
    · rename_i kind _ _
      cases kind with
      | array =>
        simp only at hr
        split at hr
        · rename_i only honly
          refine deduplicated_refs ih r ?_
          rw [honly]
          simpa [refsOf, Ty.refs] using hr
        · simp [Ty.refs] at hr
      | enumeration => simp [refs_enumerationType] at hr
      | object => exact objectShape_refs ih r hr
      | tuple => exact items_refs ih r hr
      | boolean | integer | number | never | null | string | undefined | unknown | void => simp [Ty.refs] at hr

end Typeforge.Types
