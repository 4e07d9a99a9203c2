import Typeforge.Proofs.Types.Rounds

/-!
# The two faces of an enumeration

The type of an enumeration lists the constants of all its members. The validator chooses among those members that are
texts, by their kind and their constant, and looks at the others only to see whether null is one of them. So it accepts
null wherever the type lists it, and a text that the type lists just if a member that is a text has it as its constant;
other constants it never accepts (`enumeration_admits`).
-/

namespace Typeforge

namespace Code

/-- The types that a type is one of: the members of a union, or the type alone. -/
def Ty.alternatives : Ty → List Ty
  | .union members => members
  | t => [t]

end Code

open Code Schema

namespace Validator

/-- The validator that accepts some texts, and null if it is `nullable`. -/
def choice (texts : List String) (nullable : Bool) : Expr :=
  let picklist := Maker.picklist.apply [.array (texts.map .string)]
  if nullable then Maker.nullable.apply [picklist] else picklist

/-- The choice accepts the values of the type: a text that is among its texts, or null. -/
def Admits (texts : List String) (nullable : Bool) (t : Ty) : Prop :=
  (∃ s ∈ texts, t = .literal (.string s)) ∨ nullable = true ∧ t = .literal .null

section Choice

variable {texts texts' : List String} {nullable nullable' : Bool} {members : List Attributes}

theorem string_injective : Function.Injective Expr.string := by
  intro s t h
  cases h
  rfl

theorem choice_inj (h : choice texts nullable = choice texts' nullable') : texts = texts' ∧ nullable = nullable' := by
  have htexts {l l' : List String} (hmap : l.map Expr.string = l'.map Expr.string) : l = l' :=
    List.map_injective_iff.2 string_injective hmap
  cases nullable <;> cases nullable' <;>
    simp [choice, Maker.apply, Maker.name, Validator.apply] at h
  · exact ⟨htexts h, rfl⟩
  · exact ⟨htexts h, rfl⟩

theorem choice_ne_unknown : choice texts nullable ≠ unknown := by
  cases nullable <;> simp [choice, unknown, Maker.apply, Maker.name, Validator.apply]

/-- What an enumeration chooses among, and whether it accepts null. -/
theorem of_enumerationValidator (h : enumerationValidator members = choice texts nullable) :
    texts = members.filterMap memberText? ∧ nullable = members.any isNullMember := by
  unfold enumerationValidator at h
  split at h
  · exact absurd h.symm choice_ne_unknown
  · rename_i hne
    exact choice_inj h.symm

theorem base_enumeration {metadata : Bool} {n : Node} (hk : n.kind = some .enumeration) :
    base metadata n = .closed (enumerationValidator (n.itemList.map Node.toAttributes)) := by
  have hconst : constantValidator? n.toAttributes .enumeration = none := by
    unfold constantValidator?
    split <;> simp_all
  rw [base, hk]
  cases n.reference <;> simp only [hconst] <;> rw [kindBase]

end Choice

end Validator

namespace Types

open Validator

section Members

variable {a : Attributes} {as : List Attributes} {t : Ty} {s : String}

theorem memberText_eq_some_iff : memberText? a = some s ↔ a.kind = some .string ∧ a.const = some (.string s) := by
  unfold memberText?
  split <;> simp_all

theorem ofValue_eq_null {v : Json.Value} (h : Ty.ofValue v = .literal .null) : v = .null := by
  cases v with
  | null => rfl
  | number n =>
    cases n with
    | whole n =>
      simp only [Ty.ofValue, Literal.ofNumber] at h
      split at h <;> cases h
    | float x => cases h
  | bool _ | string _ | array _ | object _ => cases h

/-- A member that is listed as null is a null for the validator, too. -/
theorem isNullMember_of_memberType (h : memberType? a = some (.literal .null)) : isNullMember a = true := by
  unfold memberType? at h
  cases hconst : a.const with
  | none =>
    rw [hconst] at h
    have hkind : a.kind = some .null := by simpa using h
    simp [isNullMember, hkind]
  | some v =>
    rw [hconst] at h
    obtain rfl := ofValue_eq_null (Option.some.inj h)
    unfold isNullMember
    split <;> simp_all

/-- What an enumeration lists is the type of a member, or says nothing of its values. -/
theorem memberType_of_mem_alternatives (h : t ∈ (enumerationType as).alternatives) :
    (∃ a ∈ as, memberType? a = some t) ∨ t = .keyword .unknown := by
  rcases enumerationType_cases as with ⟨a, ha, hone⟩ | ⟨ts, hts, hmembers⟩ | hunknown
  · have hself : (enumerationType as).alternatives = [enumerationType as] := by
      rcases memberType_cases hone with ⟨v, hv⟩ | hnull
      · rw [hv]
        cases v <;> rfl
      · rw [hnull]
        rfl
    rw [hself, List.mem_singleton] at h
    exact .inl ⟨a, ha, h ▸ hone⟩
  · rw [hts] at h
    exact .inl (hmembers t h)
  · rw [hunknown] at h
    exact .inr (List.mem_singleton.1 h)

end Members

section Enumeration

variable {metadata : Bool} {n : Node} {texts : List String} {nullable : Bool}

/-- **Of what the type of an enumeration lists, its choice accepts null and the constants of the members that are
texts**, and nothing else. -/
theorem enumeration_admits (hk : n.kind = some .enumeration) (h : base metadata n = .closed (choice texts nullable)) :
    (n.const = none → shape n = enumerationType (n.itemList.map Node.toAttributes)) ∧
    ∀ t ∈ (enumerationType (n.itemList.map Node.toAttributes)).alternatives, Admits texts nullable t ↔
      t = .literal .null ∨
        ∃ m ∈ n.itemList, ∃ s, m.kind = some .string ∧ m.const = some (.string s) ∧ t = .literal (.string s) := by
  rw [base_enumeration hk] at h
  obtain ⟨rfl, rfl⟩ := of_enumerationValidator (Sketch.closed.inj h)
  have htext (s : String) : s ∈ (n.itemList.map Node.toAttributes).filterMap memberText? ↔
      ∃ m ∈ n.itemList, m.kind = some .string ∧ m.const = some (.string s) := by
    simp only [List.mem_filterMap, List.mem_map, exists_exists_and_eq_and, memberText_eq_some_iff]
  refine ⟨shape_enumeration hk, fun t ht => ⟨?_, ?_⟩⟩
  · rintro (⟨s, hs, rfl⟩ | ⟨-, rfl⟩)
    · obtain ⟨m, hm, hkind, hconst⟩ := (htext s).1 hs
      exact .inr ⟨m, hm, s, hkind, hconst, rfl⟩
    · exact .inl rfl
  · rintro (rfl | ⟨m, hm, s, hkind, hconst, rfl⟩)
    · rcases memberType_of_mem_alternatives ht with ⟨a, ha, hnull⟩ | hunknown
      · exact .inr ⟨List.any_eq_true.2 ⟨a, ha, isNullMember_of_memberType hnull⟩, rfl⟩
      · cases hunknown
    · exact .inl ⟨s, (htext s).2 ⟨m, hm, hkind, hconst⟩, rfl⟩

/-- An enumeration of a text, null and a text that is no member of kind text. -/
def sizeRaw : Json.Raw :=
  .object [
    ("type", .string "enum"),
    ("items", .array [
      .object [("type", .string "string"), ("const", .string "small")],
      .object [("type", .string "null")],
      .object [("const", .string "small")]])]

def size : Node where
  kind := some .enumeration
  items := some [{ kind := some .string, const := some (.string "small") }, .ofKind .null,
    { const := some (.string "small") }]

/-- All that the type lists is accepted: the text of the third member is that of the first one. -/
theorem size_admits : Node.decode 8 sizeRaw = some size ∧ size.kind = some .enumeration ∧
    base false size = .closed (choice ["small"] true) ∧
    shape size = .union [.literal (.string "small"), .literal .null] ∧
    Admits ["small"] true (.literal (.string "small")) ∧ Admits ["small"] true (.literal .null) := by
  have hdecode : Node.decode 8 sizeRaw = some size := by rfl
  have hbase : base false size = .closed (choice ["small"] true) := base_enumeration rfl
  obtain ⟨hshape, hadmits⟩ := enumeration_admits (n := size) rfl hbase
  have htype : enumerationType (size.itemList.map Node.toAttributes) =
      .union [.literal (.string "small"), .literal .null] := rfl
  rw [htype] at hshape hadmits
  refine ⟨hdecode, rfl, hbase, hshape rfl, (hadmits _ (by simp [Ty.alternatives])).2 (.inr ?_),
    (hadmits _ (by simp [Ty.alternatives])).2 (.inl rfl)⟩
  exact ⟨_, List.mem_cons_self, "small", rfl, rfl, rfl⟩

/-- An enumeration of a text, a number and a text that is no member of kind text. -/
def mixedRaw : Json.Raw :=
  .object [
    ("type", .string "enum"),
    ("items", .array [
      .object [("type", .string "string"), ("const", .string "a")],
      .object [("type", .string "integer"), ("const", .number (.whole 1))],
      .object [("const", .string "b")]])]

def mixed : Node where
  kind := some .enumeration
  items := some [{ kind := some .string, const := some (.string "a") },
    { kind := some .integer, const := some (.number (.whole 1)) }, { const := some (.string "b") }]

/-- The type lists all three constants, and the choice accepts the first one alone. -/
theorem mixed_refuses : Node.decode 8 mixedRaw = some mixed ∧ mixed.kind = some .enumeration ∧
    base false mixed = .closed (choice ["a"] false) ∧
    shape mixed = .union [.literal (.string "a"), .literal (.int 1), .literal (.string "b")] ∧
    ¬ (∀ t ∈ (enumerationType (mixed.itemList.map Node.toAttributes)).alternatives, Admits ["a"] false t) ∧
    ¬ Admits ["a"] false (.literal (.int 1)) ∧ ¬ Admits ["a"] false (.literal (.string "b")) := by
  have hdecode : Node.decode 8 mixedRaw = some mixed := by rfl
  have hnumber : ¬ Admits ["a"] false (.literal (.int 1)) := by simp [Admits]
  have htype : enumerationType (mixed.itemList.map Node.toAttributes) =
      .union [.literal (.string "a"), .literal (.int 1), .literal (.string "b")] := rfl
  refine ⟨hdecode, rfl, base_enumeration rfl, ?_, fun hall => hnumber (hall _ ?_), hnumber, by simp [Admits]⟩
  · rw [shape_enumeration rfl rfl, htype]
  · rw [htype]
    simp [Ty.alternatives]

end Enumeration

end Types

end Typeforge
