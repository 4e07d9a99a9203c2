import Typeforge.Proofs.Code.Literals

/-!
# The trees of types

The tree of a type is the type as far as its text can tell: a union in a union is merged with it, and so is an
intersection in an intersection; a connective with one member is the member; and numbers are told apart by their texts.

* `Merged`: in a tree, no member of a connective is joined by the same one, and none stands alone;
* `Ty.parts`: the members that a type comes to when those with the same connective are merged;
* `tree_parts`, `textIn_parts`: the tree and the text by the parts.
-/

namespace Typeforge.Code

open Text (joinWith)

/-! ### The rules -/

/-- What joins types. -/
inductive Connective where
  | union
  | intersection
deriving DecidableEq

inductive TypeTree where
  | keyword (k : Keyword)
  | literal (l : LiteralTree)
  | ref (name : String)
  | array (element : TypeTree)
  | tuple (elements : List TypeTree)
  | object (members : List (Member TypeTree))
  | record (key value : TypeTree)
  | joined (c : Connective) (members : List TypeTree)

/-- The members of what the connective joins; any other type is one member. -/
def TypeTree.parts (c : Connective) : TypeTree → List TypeTree
  | .joined d members => if d = c then members else [.joined d members]
  | t => [t]

/-- The types, joined. What the connective joins among them is merged, and one type stays as it is. -/
def TypeTree.join (c : Connective) (ts : List TypeTree) : TypeTree :=
  match ts.flatMap (parts c) with
  | [t] => t
  | members => .joined c members

/-- The literal, with `null` for the one that is not told from the keyword. -/
def Literal.typeTree (null : TypeTree) : Literal → TypeTree
  | .null => null
  | l => .literal l.tree

section

variable (null : TypeTree)

mutual

/-- The tree of a type, in which `null` is the tree of the literal of that name. -/
def Ty.tree : Ty → TypeTree
  | .keyword k => .keyword k
  | .literal l => l.typeTree null
  | .ref name => .ref name
  | .array element => .array element.tree
  | .tuple elements => .tuple (typeTrees elements)
  | .union members => .join .union (typeTrees members)
  | .intersection members => .join .intersection (typeTrees members)
  | .object members => .object (memberTrees members)
  | .record key value => .record key.tree value.tree

def typeTrees : List Ty → List TypeTree
  | [] => []
  | t :: ts => t.tree :: typeTrees ts

def memberTrees : List (Member Ty) → List (Member TypeTree)
  | [] => []
  | ⟨name, type, optional, readonly⟩ :: ms => ⟨name, type.tree, optional, readonly⟩ :: memberTrees ms

end

end

/-- The words that a type is written with and that no type is named by, apart from those that are reserved. -/
def typeWords : List String := [
  "any", "bigint", "boolean", "infer", "intrinsic", "keyof", "never", "number", "object", "readonly", "string",
  "symbol", "undefined", "unique", "unknown"]

section

variable (A : Alphabet)

mutual

/-- Whether the type can be written: a connective has a member, a number is finite, and a name is one. -/
def Ty.proper : Ty → Bool
  | .keyword _ => true
  | .literal l => l.isFinite
  | .ref name => A.isIdentifier name && !typeWords.contains name
  | .array element => element.proper
  | .tuple elements => properTypes elements
  | .union members => !members.isEmpty && properTypes members
  | .intersection members => !members.isEmpty && properTypes members
  | .object members => properMembers members
  | .record key value => key.proper && value.proper

def properTypes : List Ty → Bool
  | [] => true
  | t :: ts => t.proper && properTypes ts

def properMembers : List (Member Ty) → Bool
  | [] => true
  | m :: ms => m.type.proper && properMembers ms

end

end

def Ty.children : Ty → List Ty
  | .keyword _ | .literal _ | .ref _ => []
  | .array element => [element]
  | .tuple elements => elements
  | .union members => members
  | .intersection members => members
  | .object members => members.map Member.type
  | .record key value => [key, value]

/-- The types that the connective joins, if the type is joined by it. -/
def Ty.members? (c : Connective) : Ty → Option (List Ty)
  | .union members => if c = .union then some members else none
  | .intersection members => if c = .intersection then some members else none
  | _ => none

mutual

/-- The members of a type, with those merged that the same connective joins. -/
def Ty.parts (c : Connective) : Ty → List Ty
  | .union members => if c = .union then partsOf c members else [.union members]
  | .intersection members => if c = .intersection then partsOf c members else [.intersection members]
  | t => [t]

def partsOf (c : Connective) : List Ty → List Ty
  | [] => []
  | t :: ts => t.parts c ++ partsOf c ts

end

def Connective.separator : Connective → String
  | .union => " | "
  | .intersection => " & "

def Ty.textIn : Connective → Ty → String
  | .union, t => t.text
  | .intersection, t => if t.looserThanIntersection then parenthesized t.text else t.text

/-- The connective joins the members to the type. -/
structure Ty.Joins (c : Connective) (members : List Ty) (t : Ty) : Prop where
  children : t.children = members
  parts : t.parts c = members.flatMap (Ty.parts c)
  tree (null : TypeTree) : t.tree null = .join c (members.map (Ty.tree null))
  text : t.text = joinWith c.separator (members.map (Ty.textIn c))
  /-- As a member of one of its own kind it needs no parentheses. -/
  textIn : t.textIn c = t.text
  nonempty (A : Alphabet) (h : t.proper A = true) : members ≠ []

/-! ### Lists of types -/

section Lists

variable {A : Alphabet} {null : TypeTree} {c : Connective} {t : Ty} {ts ms : List Ty}

theorem typeTrees_eq (ts : List Ty) : typeTrees null ts = ts.map (Ty.tree null) := by
  induction ts with
  | nil => rfl
  | cons t ts ih => simp [typeTrees, ih]

theorem memberTrees_eq (ms : List (Member Ty)) :
    memberTrees null ms = ms.map fun m => ⟨m.name, m.type.tree null, m.optional, m.readonly⟩ := by
  induction ms with
  | nil => rfl
  | cons m ms ih => simp [memberTrees, ih]

theorem properTypes_iff : properTypes A ts = true ↔ ∀ t ∈ ts, t.proper A = true := by
  induction ts with
  | nil => simp [properTypes]
  | cons t ts ih => simp [properTypes, ih]

theorem properMembers_iff {ms : List (Member Ty)} :
    properMembers A ms = true ↔ ∀ m ∈ ms, m.type.proper A = true := by
  induction ms with
  | nil => simp [properMembers]
  | cons m ms ih => simp [properMembers, ih]

theorem typeTexts_eq (ts : List Ty) : typeTexts ts = ts.map Ty.text := by
  induction ts with
  | nil => rfl
  | cons t ts ih => simp [typeTexts, ih]

theorem groupedTexts_eq (ts : List Ty) : groupedTexts ts = ts.map (Ty.textIn .intersection) := by
  induction ts with
  | nil => rfl
  | cons t ts ih => simp [groupedTexts, Ty.textIn, ih]

theorem memberTexts_eq (ms : List (Member Ty)) :
    memberTexts ms = ms.map fun m => memberText m.name m.type.text m.optional m.readonly := by
  induction ms with
  | nil => rfl
  | cons m ms ih => simp [memberTexts, ih]

theorem partsOf_eq (ts : List Ty) : partsOf c ts = ts.flatMap (Ty.parts c) := by
  induction ts with
  | nil => rfl
  | cons t ts ih => simp [partsOf, ih]

theorem Ty.sizeOf_lt_of_mem_children {u : Ty} (h : u ∈ t.children) : sizeOf u < sizeOf t := by
  cases t with
  | keyword _ | literal _ | ref _ => simp [children] at h
  | array element =>
    obtain rfl : u = element := by simpa [children] using h
    simp
  | tuple ms | union ms | intersection ms =>
    have hlt := List.sizeOf_lt_of_mem (show u ∈ ms from h)
    simp only [tuple.sizeOf_spec, union.sizeOf_spec, intersection.sizeOf_spec]
    omega
  | object ms =>
    obtain ⟨m, hm, rfl⟩ := List.mem_map.1 h
    have hlt := List.sizeOf_lt_of_mem hm
    have htype : sizeOf m.type < sizeOf m := by
      cases m
      simp only [Member.mk.sizeOf_spec]
      omega
    simp only [object.sizeOf_spec]
    omega
  | record key value =>
    rcases List.mem_pair.1 h with rfl | rfl <;> simp only [record.sizeOf_spec] <;> omega

theorem Ty.children_induction {P : Ty → Prop} (h : ∀ t : Ty, (∀ u ∈ t.children, P u) → P t) (t : Ty) : P t :=
  h t fun u _ => children_induction h u
termination_by sizeOf t
decreasing_by exact sizeOf_lt_of_mem_children ‹_›

theorem Ty.proper_children {u : Ty} (h : t.proper A = true) (hu : u ∈ t.children) : u.proper A = true := by
  cases t with
  | keyword _ | literal _ | ref _ => simp [children] at hu
  | array element =>
    obtain rfl : u = element := by simpa [children] using hu
    exact h
  | tuple ms => exact properTypes_iff.1 h u hu
  | union ms | intersection ms => exact properTypes_iff.1 (Bool.and_eq_true_iff.1 h).2 u hu
  | object ms =>
    obtain ⟨m, hm, rfl⟩ := List.mem_map.1 hu
    exact properMembers_iff.1 h m hm
  | record key value =>
    obtain ⟨hkey, hvalue⟩ := Bool.and_eq_true_iff.1 h
    rcases List.mem_pair.1 hu with rfl | rfl
    · exact hkey
    · exact hvalue

theorem Ty.joins_of_members? (h : t.members? c = some ms) : t.Joins c ms := by
  cases t with
  | union members =>
    cases c with
    | union =>
      obtain rfl : members = ms := Option.some.inj h
      refine ⟨rfl, partsOf_eq members, fun null => ?_, ?_, rfl, fun A hproper => ?_⟩
      · rw [tree, typeTrees_eq]
      · rw [text, typeTexts_eq]
        rfl
      · simpa using (Bool.and_eq_true_iff.1 hproper).1
    | intersection => cases h
  | intersection members =>
    cases c with
    | union => cases h
    | intersection =>
      obtain rfl : members = ms := Option.some.inj h
      refine ⟨rfl, partsOf_eq members, fun null => ?_, ?_, rfl, fun A hproper => ?_⟩
      · rw [tree, typeTrees_eq]
      · rw [text, groupedTexts_eq]
        rfl
      · simpa using (Bool.and_eq_true_iff.1 hproper).1
  | keyword _ | literal _ | ref _ | array _ | tuple _ | object _ | record _ _ => cases h

theorem Ty.parts_of_members?_eq_none (h : t.members? c = none) : t.parts c = [t] := by
  cases t with
  | union members | intersection members =>
    cases c with
    | union => first | rfl | cases h
    | intersection => first | rfl | cases h
  | keyword _ | literal _ | ref _ | array _ | tuple _ | object _ | record _ _ => rfl

end Lists

/-! ### Merged trees -/

/-- Where the connective joins types, none of them is joined by it, and there is more than one; and so on in them. -/
inductive Merged : TypeTree → Prop
  | single {t : TypeTree} (h : ∀ c, t.parts c = [t]) : Merged t
  | joined {c : Connective} {ts : List TypeTree} (hlength : ts.length ≠ 1) (hparts : ∀ t ∈ ts, t.parts c = [t])
    (h : ∀ t ∈ ts, Merged t) : Merged (.joined c ts)

section Trees

variable {c : Connective} {t u : TypeTree} {ts : List TypeTree}

theorem TypeTree.parts_joined_of_ne {d : Connective} (h : d ≠ c) : (joined d ts).parts c = [joined d ts] := if_neg h

theorem Merged.of_mem_parts (h : Merged t) (hu : u ∈ t.parts c) : u.parts c = [u] ∧ Merged u := by
  cases h with
  | single h =>
    obtain rfl : u = t := by simpa [h c] using hu
    exact ⟨h c, .single h⟩
  | @joined d ts hlength hparts h =>
    by_cases hsame : d = c
    · subst hsame
      have hmem : u ∈ ts := by simpa [TypeTree.parts] using hu
      exact ⟨hparts u hmem, h u hmem⟩
    · rw [TypeTree.parts_joined_of_ne hsame, List.mem_singleton] at hu
      subst hu
      exact ⟨TypeTree.parts_joined_of_ne hsame, .joined hlength hparts h⟩

theorem Merged.of_mem_flatMap_parts (h : ∀ t ∈ ts, Merged t) (hu : u ∈ ts.flatMap (TypeTree.parts c)) :
    u.parts c = [u] ∧ Merged u := by
  obtain ⟨t, ht, hut⟩ := List.mem_flatMap.1 hu
  exact (h t ht).of_mem_parts hut

theorem TypeTree.parts_join (h : ∀ t ∈ ts, Merged t) : (join c ts).parts c = ts.flatMap (parts c) := by
  unfold join
  split
  · rename_i t hsingle
    rw [hsingle]
    exact (Merged.of_mem_flatMap_parts h (by simp [hsingle])).1
  · simp [parts]

theorem TypeTree.merged_join (h : ∀ t ∈ ts, Merged t) : Merged (join c ts) := by
  unfold join
  split
  · rename_i t hsingle
    exact (Merged.of_mem_flatMap_parts (c := c) h (by simp [hsingle])).2
  · rename_i hmore
    refine .joined (fun hone => ?_) (fun t ht => (Merged.of_mem_flatMap_parts h ht).1)
      fun t ht => (Merged.of_mem_flatMap_parts h ht).2
    obtain ⟨t, ht⟩ := List.length_eq_one_iff.1 hone
    exact hmore t ht

theorem TypeTree.join_singleton (h : Merged t) : join c [t] = t := by
  cases h with
  | single h => simp [join, h c]
  | @joined d ts hlength hparts h =>
    by_cases hsame : d = c
    · subst hsame
      have hflat : [joined d ts].flatMap (parts d) = ts := by simp [parts]
      unfold join
      rw [hflat]
      split
      · exact absurd rfl hlength
      · rfl
    · simp [join, TypeTree.parts_joined_of_ne hsame]

theorem TypeTree.join_congr {us : List TypeTree} (h : ts.flatMap (parts c) = us.flatMap (parts c)) :
    join c ts = join c us := by rw [join, join, h]

end Trees

/-! ### Types by their parts -/

section Parts

variable {A : Alphabet} {null : TypeTree} {c : Connective} {t u : Ty}

/-- **The tree of a type is merged.** -/
theorem Ty.merged_tree (hnull : Merged null) (t : Ty) : Merged (t.tree null) := by
  induction t using children_induction with
  | h t ih =>
    have hmembers (ms : List Ty) (hms : t.children = ms) : ∀ u ∈ typeTrees null ms, Merged u := by
      intro u hu
      obtain ⟨m, hm, rfl⟩ := List.mem_map.1 (typeTrees_eq ms ▸ hu)
      exact ih m (hms ▸ hm)
    cases t with
    | union ms | intersection ms => exact TypeTree.merged_join (hmembers ms rfl)
    | literal l =>
      cases l with
      | null => exact hnull
      | string _ | number _ | int _ | bool _ | notANumber | infinity _ => exact .single fun _ => rfl
    | keyword _ | ref _ | array _ | tuple _ | object _ | record _ _ => exact .single fun _ => rfl

theorem Ty.proper_parts (h : t.proper A = true) (hu : u ∈ t.parts c) : u.proper A = true := by
  induction t using children_induction with
  | h t ih =>
    cases hms : t.members? c with
    | none =>
      rw [parts_of_members?_eq_none hms, List.mem_singleton] at hu
      exact hu ▸ h
    | some ms =>
      have hjoins := joins_of_members? hms
      rw [hjoins.parts] at hu
      obtain ⟨m, hm, hum⟩ := List.mem_flatMap.1 hu
      have hchild : m ∈ t.children := hjoins.children ▸ hm
      exact ih m hchild (proper_children h hchild) hum

theorem Ty.parts_ne_nil (h : t.proper A = true) : t.parts c ≠ [] := by
  induction t using children_induction with
  | h t ih =>
    cases hms : t.members? c with
    | none => simp [parts_of_members?_eq_none hms]
    | some ms =>
      have hjoins := joins_of_members? hms
      obtain ⟨m, more, rfl⟩ := List.exists_cons_of_ne_nil (hjoins.nonempty A h)
      have hm : m ∈ t.children := hjoins.children ▸ List.mem_cons_self
      simp [hjoins.parts, ih m hm (proper_children h hm)]

/-- No part is joined by the connective. -/
theorem Ty.members?_of_mem_parts (hu : u ∈ t.parts c) : u.members? c = none := by
  induction t using children_induction with
  | h t ih =>
    cases hms : t.members? c with
    | none =>
      rw [parts_of_members?_eq_none hms, List.mem_singleton] at hu
      exact hu ▸ hms
    | some ms =>
      have hjoins := joins_of_members? hms
      rw [hjoins.parts] at hu
      obtain ⟨m, hm, hum⟩ := List.mem_flatMap.1 hu
      exact ih m (hjoins.children ▸ hm) hum

theorem Ty.parts_tree (hnull : Merged null) (t : Ty) :
    ((t.parts c).map (Ty.tree null)).flatMap (TypeTree.parts c) = (t.tree null).parts c := by
  induction t using children_induction with
  | h t ih =>
    cases hms : t.members? c with
    | none => simp [parts_of_members?_eq_none hms]
    | some ms =>
      have hjoins := joins_of_members? hms
      have hmerged : ∀ u ∈ ms.map (Ty.tree null), Merged u := by
        intro u hu
        obtain ⟨m, -, rfl⟩ := List.mem_map.1 hu
        exact m.merged_tree hnull
      rw [hjoins.tree, TypeTree.parts_join hmerged, hjoins.parts, List.map_flatMap, List.flatMap_assoc,
        List.flatMap_map]
      exact List.flatMap_congr fun m hm => ih m (hjoins.children ▸ hm)

/-- **The tree of a type joins the trees of its parts.** -/
theorem Ty.tree_parts (hnull : Merged null) (c : Connective) (t : Ty) :
    .join c ((t.parts c).map (Ty.tree null)) = t.tree null := by
  rw [← TypeTree.join_singleton (c := c) (t.merged_tree hnull)]
  refine TypeTree.join_congr ?_
  rw [t.parts_tree hnull, List.flatMap_singleton]

end Parts

theorem joinWith_append {sep : String} {ss ss' : List String} (h : ss ≠ []) (h' : ss' ≠ []) :
    joinWith sep (ss ++ ss') = joinWith sep ss ++ sep ++ joinWith sep ss' := by
  induction ss with
  | nil => exact absurd rfl h
  | cons s ss ih =>
    cases ss with
    | nil =>
      obtain ⟨s', more, rfl⟩ := List.exists_cons_of_ne_nil h'
      simp [joinWith]
    | cons s' ss =>
      have hrest := ih (List.cons_ne_nil _ _)
      simp only [List.cons_append, joinWith] at hrest ⊢
      rw [hrest]
      simp only [String.append_assoc]

theorem joinWith_flatMap {β : Type} (sep : String) (f : β → List String) (items : List β) (h : ∀ b ∈ items, f b ≠ []) :
    joinWith sep (items.map fun b => joinWith sep (f b)) = joinWith sep (items.flatMap f) := by
  induction items with
  | nil => rfl
  | cons b items ih =>
    have hrest := ih fun b hb => h b (List.mem_cons_of_mem _ hb)
    cases items with
    | nil => simp [joinWith]
    | cons b' items =>
      have hne : (b' :: items).flatMap f ≠ [] := by simp [h b' (by simp)]
      rw [List.flatMap_cons, joinWith_append (h b List.mem_cons_self) hne, ← hrest]
      rfl

/-- **The text of a type joins the texts of its parts.** -/
theorem Ty.textIn_parts {A : Alphabet} {c : Connective} {t : Ty} (h : t.proper A = true) :
    t.textIn c = joinWith c.separator ((t.parts c).map (Ty.textIn c)) := by
  induction t using children_induction with
  | h t ih =>
    cases hms : t.members? c with
    | none => rw [parts_of_members?_eq_none hms, List.map_singleton, joinWith]
    | some ms =>
      have hjoins := joins_of_members? hms
      have hmem : ∀ m ∈ ms, m ∈ t.children := fun m hm => hjoins.children ▸ hm
      have hmembers : ms.map (Ty.textIn c) = ms.map fun m => joinWith c.separator ((m.parts c).map (Ty.textIn c)) :=
        List.map_congr_left fun m hm => ih m (hmem m hm) (proper_children h (hmem m hm))
      have hne : ∀ m ∈ ms, (m.parts c).map (Ty.textIn c) ≠ [] := fun m hm => by
        simpa using parts_ne_nil (proper_children h (hmem m hm))
      rw [hjoins.textIn, hjoins.text, hmembers, joinWith_flatMap _ _ _ hne, hjoins.parts, List.map_flatMap]

end Typeforge.Code
