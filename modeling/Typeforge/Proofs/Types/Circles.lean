import Typeforge.Proofs.Types.Blocks
import Typeforge.Proofs.Walks

/-!
# Aliases that come back to themselves

To know what an alias stands for, one has to know the aliases that occur in it bare, that is outside of arrays, tuples
and objects: an alias that comes back to itself this way stands for nothing. The plugin writes such aliases. The bare
names in an alias are those of the references that its schema writes bare: as the whole of it, among what it composes,
or for further properties (`Node.Bare`). A round of `deduplicate` may bring such a reference up, so the relation follows
the rounds.

* `mem_bareRefs_shape`: what is bare in the type of a node;
* `unfolds_iff`: what is bare in the aliases of the file;
* `fillFile_unfolding`: the aliases of the file come back to themselves just if the components do.
-/

namespace Typeforge

open Code Schema

namespace Code

mutual

/-- What the type refers to outside of arrays, tuples and objects, from left to right. -/
def Ty.bareRefs : Ty → List String
  | .ref r => [r]
  | .union members => bareRefsOf members
  | .intersection members => bareRefsOf members
  | .record key value => key.bareRefs ++ value.bareRefs
  | .keyword _ | .literal _ | .array _ | .tuple _ | .object _ => []

def bareRefsOf : List Ty → List String
  | [] => []
  | t :: ts => t.bareRefs ++ bareRefsOf ts

end

theorem bareRefsOf_eq (ts : List Ty) : bareRefsOf ts = ts.flatMap Ty.bareRefs := by
  induction ts with
  | nil => rfl
  | cons t ts ih => simp [bareRefsOf, ih]

mutual

theorem bareRefs_subset : ∀ t : Ty, t.bareRefs ⊆ t.refs
  | .keyword _ | .literal _ | .array _ | .tuple _ | .object _ => List.nil_subset _
  | .ref _ => List.Subset.refl _
  | .union members => bareRefsOf_subset members
  | .intersection members => bareRefsOf_subset members
  | .record key value => List.append_subset.2 ⟨
      List.Subset.trans (bareRefs_subset key) (List.subset_append_left _ _),
      List.Subset.trans (bareRefs_subset value) (List.subset_append_right _ _)⟩

theorem bareRefsOf_subset : ∀ ts : List Ty, bareRefsOf ts ⊆ refsOf ts
  | [] => List.nil_subset _
  | t :: ts => List.append_subset.2 ⟨
      List.Subset.trans (bareRefs_subset t) (List.subset_append_left _ _),
      List.Subset.trans (bareRefsOf_subset ts) (List.subset_append_right _ _)⟩

end

section Renamed

variable {P : String → String → Prop}

/-- A list that answers two lists one after the other, cut between them. -/
theorem forall₂_cut {as as' bs : List String} (h : List.Forall₂ P (as ++ as') bs) :
    List.Forall₂ P as (bs.take as.length) ∧ List.Forall₂ P as' (bs.drop as.length) := by
  have htake := List.forall₂_take as.length h
  have hdrop := List.forall₂_drop as.length h
  rw [List.take_left] at htake
  rw [List.drop_left] at hdrop
  exact ⟨htake, hdrop⟩

mutual

theorem bareRefs_renamed : ∀ (t : Ty) (names : List String), List.Forall₂ P t.refs names →
    List.Forall₂ P t.bareRefs (t.renamed names).bareRefs
  | .keyword _, _, _ | .literal _, _, _ | .array _, _, _ | .tuple _, _, _ | .object _, _, _ => .nil
  | .ref _, [_], h => h
  | .union members, names, h => bareRefsOf_renamedTypes members names h
  | .intersection members, names, h => bareRefsOf_renamedTypes members names h
  | .record key value, names, h => by
    obtain ⟨hkey, hvalue⟩ := forall₂_cut h
    exact List.rel_append (bareRefs_renamed key _ hkey) (bareRefs_renamed value _ hvalue)

theorem bareRefsOf_renamedTypes : ∀ (ts : List Ty) (names : List String), List.Forall₂ P (refsOf ts) names →
    List.Forall₂ P (bareRefsOf ts) (bareRefsOf (renamedTypes ts names))
  | [], _, _ => .nil
  | t :: ts, names, h => by
    obtain ⟨ht, hts⟩ := forall₂_cut h
    exact List.rel_append (bareRefs_renamed t _ ht) (bareRefsOf_renamedTypes ts _ hts)

end

end Renamed

end Code

/-! ### What is bare in a schema -/

/-- The schema refers to `r` outside of arrays, tuples and properties. -/
inductive Schema.Node.Bare : Node → String → Prop
  | reference {n : Node} {r : String} : n.reference = some r → n.kind = none → n.Bare r
  /-- What is composed after a round that leaves out repeated items. -/
  | item {n m : Node} {r : String} : n.const = none → n.isComposition = true → n.deduplicate.isComposition = true →
    m ∈ n.deduplicate.itemList → m.Bare r → n.Bare r
  /-- What a round has lifted out of the composition. -/
  | lifted {n : Node} {r : String} : n.const = none → n.isComposition = true → n.deduplicate.isComposition = false →
    n.deduplicate.Bare r → n.Bare r
  | additional {n m : Node} {r : String} : n.kind = some .object → n.const = none → n.additional = some m →
    m.Bare r → n.Bare r

namespace Types

section Shape

variable {n m : Node} {r : String}

theorem kind_of_isComposition (h : n.isComposition = true) : n.kind = none ∧ n.reference = none := by
  simp only [Node.isComposition, Bool.and_eq_true, Option.isNone_iff_eq_none] at h
  exact h.1

theorem shape_reference (hr : n.reference = some r) (hk : n.kind = none) : shape n = .ref r := by
  rw [shape, hr, hk]

theorem shape_composed (hc : n.const = none) (h : n.isComposition = true) (hd : n.deduplicate.isComposition = true) :
    shape n = .intersection (shapes n.deduplicate.itemList) ∨ shape n = .union (shapes n.deduplicate.itemList) := by
  obtain ⟨hk, hr⟩ := kind_of_isComposition h
  by_cases ho : n.deduplicate.operator = some .and
  · left
    rw [shape, hr, hk, hc]
    simp [h, hd, ho]
  · right
    rw [shape, hr, hk, hc]
    simp [h, hd, ho]

theorem shape_lifted (hc : n.const = none) (h : n.isComposition = true) (hd : n.deduplicate.isComposition = false) :
    shape n = shape n.deduplicate := by
  obtain ⟨hk, hr⟩ := kind_of_isComposition h
  rw [shape, hr, hk, hc]
  simp [h, hd]

theorem shape_object (hk : n.kind = some .object) (hc : n.const = none) : shape n = objectShape n := by
  rw [shape, hk, hc]
  cases n.reference <;> rfl

theorem mem_bareRefsOf_shapes {ns : List Node} : r ∈ bareRefsOf (shapes ns) ↔ ∃ m ∈ ns, r ∈ (shape m).bareRefs := by
  rw [bareRefsOf_eq, shapes_eq, List.flatMap_map, List.mem_flatMap]

theorem mem_bareRefs_objectShape :
    r ∈ (objectShape n).bareRefs ↔ ∃ m, n.additional = some m ∧ r ∈ (shape m).bareRefs := by
  rw [objectShape]
  split <;> simp_all [Ty.bareRefs, bareRefsOf, Ty.stringRecord, Ty.unknownRecord]

theorem bareRefs_eq_nil {t : Ty} (h : t.refs = []) : t.bareRefs = [] :=
  List.subset_nil.1 (h ▸ bareRefs_subset t)

theorem bare_of_mem (n : Node) (hr : r ∈ (shape n).bareRefs) : n.Bare r := by
  induction n using Node.inductionOnSize with
  | step n ih =>
    rw [shape] at hr
    split at hr
    · -- a reference
      rename_i r' hr' hk
      have heq : r = r' := by simpa [Ty.bareRefs] using hr
      exact .reference (heq ▸ hr') hk
    · -- a constant refers to nothing
      rw [bareRefs_eq_nil (refs_ofValue _)] at hr
      exact absurd hr List.not_mem_nil
    · rename_i hc
      split at hr
      · rename_i h
        split at hr
        · -- a composition that stays one
          rename_i hd
          have hitem : ∃ m ∈ n.deduplicate.itemList, r ∈ (shape m).bareRefs := by
            split at hr <;> exact mem_bareRefsOf_shapes.1 hr
          obtain ⟨m, hm, hr⟩ := hitem
          have hlt : m.size < n.size := Nat.lt_of_lt_of_le (Node.size_item_lt hm) n.size_deduplicate_le
          exact .item hc h hd hm (ih m hlt hr)
        · rename_i hd
          have hd' : n.deduplicate.isComposition = false := by simpa using hd
          exact .lifted hc h hd' (ih _ (Node.size_deduplicate_lt h hd') hr)
      · simp [Ty.bareRefs] at hr
    · rename_i kind hk hc
      cases kind with
      | object =>
        obtain ⟨m, hm, hr⟩ := mem_bareRefs_objectShape.1 hr
        exact .additional hk hc hm (ih m (Node.size_additional_lt hm) hr)
      | enumeration =>
        rw [bareRefs_eq_nil (refs_enumerationType _)] at hr
        exact absurd hr List.not_mem_nil
      | array =>
        simp only at hr
        split at hr <;> simp [Ty.bareRefs] at hr
      | boolean | integer | never | null | number | string | tuple | undefined | unknown | void =>
        simp [Ty.bareRefs] at hr

/-- **What is bare in the type of a node** is what the node refers to bare. -/
theorem mem_bareRefs_shape : r ∈ (shape n).bareRefs ↔ n.Bare r := by
  constructor
  · exact bare_of_mem n
  · intro h
    induction h with
    | reference hr hk => simp [shape_reference hr hk, Ty.bareRefs]
    | item hc h hd hm _ ih =>
      rcases shape_composed hc h hd with heq | heq
      · rw [heq]
        exact mem_bareRefsOf_shapes.2 ⟨_, hm, ih⟩
      · rw [heq]
        exact mem_bareRefsOf_shapes.2 ⟨_, hm, ih⟩
    | lifted hc h hd _ ih =>
      rw [shape_lifted hc h hd]
      exact ih
    | additional hk hc hm _ ih =>
      rw [shape_object hk hc]
      exact mem_bareRefs_objectShape.2 ⟨_, hm, ih⟩

theorem ofNode_of_bare (h : n.Bare r) : Shape.ofNode n = .typeAlias (shape n) := by
  have hobject : ¬ (n.kind = some .object ∧ n.additional = none) := by
    rintro ⟨hk, ha⟩
    cases h with
    | reference hr hk' => simp [hk] at hk'
    | item _ h => simp [(kind_of_isComposition h).1] at hk
    | lifted _ h => simp [(kind_of_isComposition h).1] at hk
    | additional _ _ hm => simp [ha] at hm
  unfold Shape.ofNode
  rw [if_neg]
  intro hif
  simp only [Bool.and_eq_true, decide_eq_true_eq, Option.isNone_iff_eq_none] at hif
  exact hobject ⟨hif.1.1.1, hif.1.2⟩

end Shape

end Types

/-! ### What is bare in a file -/

/-- The name `b` is bare in what the alias `a` stands for. -/
def File.Unfolds (file : File) (a b : String) : Prop := ∃ type, .typeAlias a type ∈ file.body ∧ b ∈ type.bareRefs

/-- The schema of the component that `r` is the pointer to refers to `r'` bare. -/
def Schema.Document.Unfolds (d : Document) (r r' : String) : Prop := ∃ n, (r, n) ∈ Types.components d ∧ n.Bare r'

namespace Types

section Unfolding

variable {options : Options} {d : Document} {file : File} {id a b r r' : String}

theorem typeAlias_mem_statements {block : Block Shape} {type : Ty} :
    .typeAlias a type ∈ block.statements Shape.statement ↔ block.name = a ∧ block.declared = .typeAlias type := by
  rw [Block.mem_statements (by simp)]
  cases block.declared with
  | interface members => simp [Shape.statement]
  | typeAlias type' =>
    simp only [Shape.statement, Stmt.typeAlias.injEq, Shape.typeAlias.injEq]
    exact and_congr eq_comm eq_comm

theorem exists_unfolded (h : fillFile options d { id } = .ok file) (hab : file.Unfolds a b) :
    ∃ r r', d.Unfolds r r' ∧ file.nameOf? r = some a ∧ file.nameOf? r' = some b := by
  obtain ⟨type, htype, hb⟩ := hab
  obtain ⟨blocks, hblocks, hbody⟩ := fillFile_blocks h
  rw [hbody] at htype
  obtain ⟨block, hblock, htype⟩ := List.mem_flatMap.1 htype
  obtain ⟨rfl, hshape⟩ := typeAlias_mem_statements.1 htype
  obtain ⟨⟨r, n⟩, hn, hdeclares⟩ := exists_answered hblocks hblock
  obtain ⟨names, hrenamed, hnames⟩ := hdeclares.shape
  rw [hshape] at hrenamed
  unfold Shape.ofNode at hrenamed hnames
  split at hrenamed
  · cases hrenamed
  · rename_i halias
    rw [if_neg halias] at hnames
    obtain rfl : type = (shape n).renamed names := by
      cases hrenamed
      rfl
    obtain ⟨r', hr', hnamed⟩ := exists_answered (bareRefs_renamed (shape n) names hnames) hb
    exact ⟨r, r', ⟨n, hn, mem_bareRefs_shape.1 hr'⟩, hdeclares.named, hnamed.2⟩

theorem exists_unfolds (h : fillFile options d { id } = .ok file) (hr : d.Unfolds r r') :
    ∃ a b, file.Unfolds a b ∧ file.nameOf? r = some a ∧ file.nameOf? r' = some b := by
  obtain ⟨n, hn, hbare⟩ := hr
  obtain ⟨blocks, hblocks, hbody⟩ := fillFile_blocks h
  obtain ⟨block, hblock, hdeclares⟩ := exists_answer hblocks hn
  obtain ⟨names, hshape, hnames⟩ := hdeclares.shape
  rw [ofNode_of_bare hbare] at hshape hnames
  have hbares := bareRefs_renamed (shape n) names hnames
  obtain ⟨b, hb, hnamed⟩ := exists_answer hbares (mem_bareRefs_shape.2 hbare)
  refine ⟨block.name, b, ⟨_, ?_, hb⟩, hdeclares.named, hnamed.2⟩
  rw [hbody]
  exact List.mem_flatMap.2 ⟨block, hblock, typeAlias_mem_statements.2 ⟨rfl, hshape⟩⟩

/-- What is bare in the aliases are the names for what is bare in the components. -/
theorem unfolds_iff (h : fillFile options d { id } = .ok file) :
    file.Unfolds a b ↔ ∃ r r', d.Unfolds r r' ∧ file.nameOf? r = some a ∧ file.nameOf? r' = some b := by
  constructor
  · exact exists_unfolded h
  · rintro ⟨r, r', hr, ha, hb⟩
    obtain ⟨a', b', hab, ha', hb'⟩ := exists_unfolds h hr
    have hsame : a' = a := Option.some.inj (ha'.symm.trans ha)
    have hsame' : b' = b := Option.some.inj (hb'.symm.trans hb)
    exact hsame ▸ hsame' ▸ hab

theorem closedWalk_of_components (h : fillFile options d { id } = .ok file) {rs : List String}
    (hrs : ClosedWalk d.Unfolds rs) : ClosedWalk file.Unfolds (rs.map fun r => (file.nameOf? r).getD "") := by
  refine hrs.map fun r r' hr => ?_
  obtain ⟨a, b, hab, ha, hb⟩ := exists_unfolds h hr
  rw [ha, hb]
  exact hab

/-- A circle of aliases comes from one of components, since no two references have one name. -/
theorem exists_closedWalk (h : fillFile options d { id } = .ok file) {names : List String}
    (hnames : ClosedWalk file.Unfolds names) : ∃ rs, ClosedWalk d.Unfolds rs := by
  have hdistinct := fillFile_distinct h
  have hone (r r' name : String) (hr : file.nameOf? r = some name) (hr' : file.nameOf? r' = some name) : r = r' :=
    hdistinct.reference_eq (Keyed.mem_of_get? hr) (Keyed.mem_of_get? hr')
  exact hnames.named hone fun a b hab => (unfolds_iff h).1 hab

/-- How the aliases of the file refer to each other bare. -/
structure Unfolding (d : Document) (file : File) : Prop where
  /-- An alias has the names bare of what its component refers to bare. -/
  unfolds : ∀ a b, file.Unfolds a b ↔ ∃ r r', d.Unfolds r r' ∧ file.nameOf? r = some a ∧ file.nameOf? r' = some b
  /-- Aliases that come back to themselves are there just if there are components that do. -/
  circles : (∃ names, ClosedWalk file.Unfolds names) ↔ ∃ rs, ClosedWalk d.Unfolds rs

/-- **The aliases of the file come back to themselves just if the components do.** -/
theorem fillFile_unfolding (h : fillFile options d { id } = .ok file) : Unfolding d file where
  unfolds := fun _ _ => unfolds_iff h
  circles := by
    constructor
    · rintro ⟨names, hnames⟩
      exact exists_closedWalk h hnames
    · rintro ⟨rs, hrs⟩
      exact ⟨_, closedWalk_of_components h hrs⟩

/-- A tree whose branches are trees again. -/
def tree : Document where
  components := { schemas := [
    ("Tree", { kind := some .object, additional := some { reference := some "#/components/schemas/Tree" } })] }

def treeRaw : Json.Raw :=
  .object [("components", .object [("schemas", .object [
    ("Tree", .object [("type", .string "object"),
      ("additionalProperties", .object [("$ref", .string "#/components/schemas/Tree")])])])])]

theorem exists_tree : ∃ file, fillFile {} tree { id := "types" } = .ok file := exists_fillFile (by decide +kernel)

/-- Its file exists, with the aliases as said. -/
theorem tree_unfolding : ∃ file, Document.decode 8 treeRaw = some tree ∧
    fillFile {} tree { id := "types" } = .ok file ∧ Unfolding tree file := by
  obtain ⟨file, h⟩ := exists_tree
  have hdecode : Document.decode 8 treeRaw = some tree := by rfl
  exact ⟨file, hdecode, h, fillFile_unfolding h⟩

/-- The alias for the tree comes back to itself. -/
theorem tree_comes_back : ∃ file, Document.decode 8 treeRaw = some tree ∧
    fillFile {} tree { id := "types" } = .ok file ∧ ∃ names, ClosedWalk file.Unfolds names := by
  obtain ⟨file, h⟩ := exists_tree
  have hbare : tree.Unfolds "#/components/schemas/Tree" "#/components/schemas/Tree" :=
    ⟨_, .head _, .additional rfl rfl rfl (.reference rfl rfl)⟩
  have hcircle : ClosedWalk tree.Unfolds ["#/components/schemas/Tree", "#/components/schemas/Tree"] :=
    ⟨by decide, rfl, List.isChain_pair.2 hbare⟩
  exact ⟨file, rfl, h, _, closedWalk_of_components h hcircle⟩

end Unfolding

end Types

end Typeforge
