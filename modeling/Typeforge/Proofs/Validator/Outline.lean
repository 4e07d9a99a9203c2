import Typeforge.Proofs.Schema.Lifts
import Typeforge.Proofs.Schema.References
import Typeforge.Proofs.Schema.Parts
import Typeforge.Proofs.Validator.Mentions

/-!
# What the outline of a node points at

The outline of a node points only at references that the node writes down, however deep, and apart from them its
expressions mention nothing. Its unions and intersections join two members or more, since no composition of fewer is
left when a node is settled. Both are one condition on the outline (`outline_meets`), and the induction is on the size
of the node: a node is first settled, which makes it no larger, and its validator is put together from those of smaller
nodes. The condition is kept whatever the outline is filled with (`filled_meets`).
-/

namespace Typeforge.Validator

open Code Schema Sketch

/-! ### What outlines are -/

namespace Sketch

variable {ρ : Type}

/-- Each union and each intersection is made of one list of members, two or more of them. -/
def joining : Condition ρ where
  make function args :=
    function = .union ∨ function = .intersect → ∃ members, args = [.list members] ∧ 2 ≤ members.length

/-- Each union and each intersection that is made in the sketch has one list of members, two or more of them. -/
def Joined (s : Sketch ρ) : Prop := s.Meets joining

/-- The expressions mention nothing, what is pointed at has `P`, nothing is made lazily, and what joins joins two
members or more. -/
def outlined (P : ρ → Prop) : Condition ρ where
  closed e := e.mentions = []
  use := P
  make function args := function ≠ .lazy ∧ joining.make function args

variable {P Q : ρ → Prop}

theorem outlined_mono (h : ∀ r, P r → Q r) : (outlined P).Implies (outlined Q) where
  closed := fun _ he => he
  use := h
  make := fun _ _ hmake => hmake

theorem Meets.within {s : Sketch ρ} (h : s.Meets (outlined P)) : s.Within P := by
  refine meets_mono ?_ h
  exact ⟨fun _ he => he, fun _ hr => hr, fun _ _ hmake => hmake.1⟩

theorem Meets.joined {s : Sketch ρ} (h : s.Meets (outlined P)) : s.Joined := by
  refine meets_mono ?_ h
  exact ⟨fun _ _ => trivial, fun _ _ => trivial, fun _ _ hmake => hmake.2⟩

theorem meets_make {function : Maker} {args : List (Sketch ρ)} (hplain : function ∉ [Maker.lazy, .union, .intersect])
    (h : AllMeet (outlined P) args) : (make function args).Meets (outlined P) := by
  simp only [List.mem_cons, List.not_mem_nil, or_false, not_or] at hplain
  obtain ⟨hlazy, hunion, hintersect⟩ := hplain
  exact ⟨⟨hlazy, fun hjoins => (hjoins.elim hunion hintersect).elim⟩, h⟩

end Sketch

/-! ### One node -/

section Nodes

variable (metadata : Bool)

theorem members_eq (ns : List Node) : members metadata ns = ns.map fun n => .pipe (outline metadata n false) := by
  induction ns with
  | nil => simp [members]
  | cons n ns ih => rw [members, ih, List.map_cons]

theorem propertyMembers_eq (required : String → Bool) (ps : List (String × Node)) :
    propertyMembers metadata required ps
      = ps.map fun p => (.ofName p.1, .pipe (outline metadata p.2 (!required p.1))) := by
  induction ps with
  | nil => simp [propertyMembers]
  | cons p ps ih => rw [propertyMembers, ih, List.map_cons]

variable {P : String → Prop}

theorem finish_meets {a : Attributes} {optional : Bool} {base : Sketch String} (h : base.Meets (outlined P)) :
    AllMeet (outlined P) (finish metadata optional a base) := by
  have parts : AllMeet (outlined P) (base :: (if metadata then metadataActions a else [])
      ++ (if a.accessScope = some .read then [.closed (Action.readonly.apply [])] else [])) := by
    simp only [allMeet_iff, List.mem_append, List.mem_cons]
    rintro s ((rfl | hs) | hs)
    · exact h
    · split at hs
      · unfold metadataActions at hs
        split at hs
        · rw [List.mem_singleton.1 hs]
          exact mentioned_plain.read_action _ _
        · simp at hs
      · simp at hs
    · split at hs
      · rw [List.mem_singleton.1 hs]
        exact mentioned_plain.read_action _ _
      · simp at hs
  have whole := meets_pipe mentioned_plain.read_unknown parts
  unfold finish
  simp only
  split
  · exact ⟨meets_make (by decide) ⟨whole, mentions_defaultExpr _, trivial⟩, trivial⟩
  · split
    · exact ⟨meets_make (by decide) ⟨whole, trivial⟩, trivial⟩
    · exact parts

theorem members_meet {ns : List Node} (h : ∀ n ∈ ns, AllMeet (outlined P) (outline metadata n false)) :
    AllMeet (outlined P) (members metadata ns) := by
  rw [members_eq, allMeet_iff]
  simp only [List.forall_mem_map]
  exact fun n hn => meets_pipe mentioned_plain.read_unknown (h n hn)

/-- The outlines of smaller nodes are outlines that point only at what those nodes write down. -/
def SmallerMeet (n : Node) : Prop :=
  ∀ m : Node, m.size < n.size → ∀ optional, AllMeet (outlined (· ∈ m.references)) (outline metadata m optional)

variable {metadata}

theorem arrayBase_meets {n : Node} (ih : SmallerMeet metadata n) :
    (arrayBase metadata n).Meets (outlined (· ∈ n.references)) := by
  have inside : AllMeet (outlined (· ∈ n.references)) (members metadata n.deduplicate.itemList) := by
    refine members_meet metadata fun m hm => allMeet_mono (outlined_mono ?_) (ih m ?_ false)
    · exact fun r hr => n.deduplicate_references (Node.references_item hm hr)
    · exact Nat.lt_of_lt_of_le (Node.size_item_lt hm) n.size_deduplicate_le
  rw [arrayBase]
  refine meets_pipe mentioned_plain.read_unknown
    ⟨meets_make (by decide) ⟨?_, trivial⟩, ?_⟩
  · split
    · exact mentioned_plain.read_unknown
    · split
      · rename_i only honly
        exact (honly ▸ inside).1
      · exact ⟨inside, mentioned_plain.read_unknown⟩
  · rw [allMeet_iff]
    simp only [List.forall_mem_map]
    exact fun e he => read_lengthActions mentioned_plain he

theorem objectBase_meets {n : Node} (ih : SmallerMeet metadata n) :
    (objectBase metadata n).Meets (outlined (· ∈ n.references)) := by
  have inside : FieldsMeet (outlined (· ∈ n.references)) (propertyMembers metadata n.isRequired n.propertyList) := by
    rw [propertyMembers_eq, fieldsMeet_iff]
    simp only [List.forall_mem_map]
    intro p hp
    refine meets_pipe mentioned_plain.read_unknown
      (allMeet_mono (outlined_mono ?_) (ih p.2 (Node.size_property_lt hp) _))
    exact fun r hr => Node.references_property hp hr
  rw [objectBase]
  split
  · rename_i additional _ hadditional
    split
    · have value := allMeet_mono (outlined_mono fun r hr => Node.references_additional hadditional hr)
        (ih additional (Node.size_additional_lt hadditional) false)
      exact meets_make (by decide)
        ⟨mentioned_plain.read_maker _ (by decide), meets_pipe mentioned_plain.read_unknown value, trivial⟩
    · exact meets_make (by decide) ⟨trivial, trivial⟩
  · exact meets_make (by decide) ⟨inside, trivial⟩

theorem items_meet {n : Node} (ih : SmallerMeet metadata n) :
    AllMeet (outlined (· ∈ n.references)) (members metadata n.itemList) :=
  members_meet metadata fun m hm =>
    allMeet_mono (outlined_mono fun _ hr => Node.references_item hm hr) (ih m (Node.size_item_lt hm) false)

theorem kindBase_meets {n : Node} {kind : Kind} (ih : SmallerMeet metadata n) :
    (kindBase metadata n kind).Meets (outlined (· ∈ n.references)) := by
  rw [kindBase.eq_def]
  cases kind with
  | array => exact arrayBase_meets ih
  | object => exact objectBase_meets ih
  | tuple =>
    simp only
    rw [tupleBase]
    split
    · exact mentioned_plain.read_unknown
    · exact meets_make (by decide) ⟨items_meet ih, trivial⟩
  | enumeration => exact read_enumerationValidator mentioned_plain _
  | integer | number => exact mentions_numberValidator _
  | string =>
    simp only [Meets]
    split
    · exact mentions_numberValidator _
    · exact read_stringValidator mentioned_plain
  | boolean | never | null | undefined | unknown | void => exact mentioned_plain.read_maker _ (by decide)

/-- Where a node composes, the items that it is left with become the members. -/
theorem base_of_isComposition {n : Node} (metadata : Bool) (h : n.isComposition = true) : base metadata n =
    .make (if n.operator = some .and then .intersect else .union) [.list (members metadata n.itemList)] := by
  have hparts := h
  simp only [Node.isComposition, Bool.and_eq_true, Option.isNone_iff_eq_none] at hparts
  rw [base]
  simp [hparts.1.1, hparts.1.2, h]

theorem base_meets {n : Node} (ih : SmallerMeet metadata n) (hn : n.isComposition = true → 2 ≤ n.itemList.length) :
    (base metadata n).Meets (outlined (· ∈ n.references)) := by
  cases hc : n.isComposition with
  | true =>
    rw [base_of_isComposition metadata hc]
    refine ⟨⟨by split <;> decide, fun _ => ⟨_, rfl, ?_⟩⟩, items_meet ih, trivial⟩
    rw [members_eq, List.length_map]
    exact hn hc
  | false =>
    rw [base]
    split
    · rename_i r hr _
      exact Node.mem_references.2 (.inl hr)
    · rename_i hk
      split
      · rename_i e he
        exact mentions_constantValidator hk he
      · exact kindBase_meets ih
    · rw [if_neg (by simp [hc])]
      exact mentioned_plain.read_unknown

variable (metadata)

/-- **The outline of a node points only at references of the node and mentions nothing else**, and what joins in it
joins two members or more. -/
theorem outline_meets (n : Node) :
    ∀ optional, AllMeet (outlined (· ∈ n.references)) (outline metadata n optional) := by
  induction n using Node.inductionOnSize with
  | step n ih =>
    intro optional
    rw [outline]
    have smaller : SmallerMeet metadata n.settled := fun m hm =>
      ih m (Nat.lt_of_lt_of_le hm n.size_settled_le)
    have base := base_meets smaller fun h => (Node.items_of_settled h).1
    exact finish_meets metadata (meets_mono (outlined_mono n.settled_references) base)

theorem outline_holes {n : Node} {optional : Bool} {r : String} (h : r ∈ holesOf (outline metadata n optional)) :
    r ∈ n.references :=
  use_of_mem_holesOf (outline_meets metadata n optional) h

/-- Filled with anything, the outline of a node is as it was but for what it points at. -/
theorem filled_meets {σ : Type} (n : Node) (optional : Bool) (us : List σ) :
    (Sketch.pipe (fillAll (outline metadata n optional) us)).Meets (outlined fun _ => True) := by
  have fills : (outlined (· ∈ n.references)).FillsTo (outlined fun _ : σ => True) := by
    refine ⟨fun _ he => he, mentioned_plain.read_unknown, fun _ => trivial, fun function args us hmake => ?_⟩
    refine ⟨hmake.1, fun hjoins => ?_⟩
    obtain ⟨members, rfl, hmembers⟩ := hmake.2 hjoins
    exact ⟨_, by rw [fillAll, fill, fillAll], by rwa [length_fillAll]⟩
  exact meets_pipe mentioned_plain.read_unknown (allMeet_fillAll fills _ _ (outline_meets metadata n optional))

/-! ### Nodes without parts -/

theorem outline_reference (r : String) : outline false { reference := some r } false = [.use r] := by
  have hsettled : ({ reference := some r } : Node).settled = { reference := some r } := by rfl
  rw [outline, hsettled]
  simp [finish, base]

theorem outline_null : outline false { kind := some .null } false = [.closed (Maker.null.apply [])] := by
  have hsettled : ({ kind := some .null } : Node).settled = { kind := some .null } := by rfl
  rw [outline, hsettled]
  simp [finish, base, constantValidator?, kindBase]

end Nodes

end Typeforge.Validator
