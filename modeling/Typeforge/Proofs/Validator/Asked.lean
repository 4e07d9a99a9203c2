import Typeforge.Proofs.Schema.Pointers
import Typeforge.Proofs.Validator.Targets

/-!
# What a run asks names for

The references that get a name in the file of validators, read off the document: those under which something
is declared, and those in what is declared first under each of them (`asked`). What a reference is declared
from (`leadsTo?`) and how it is named (`styleOf`) do not depend on when it is met, since a reference to a
component leads to what is declared first under the pointer to the component (`targetOf?_resolved`).
-/

namespace Typeforge.Validator

open Schema Naming

variable (options : Options) (d : Document)

/-- What is declared first under a reference. -/
def targetOf? (r : String) : Option Target := (targets options d).find? fun x => x.reference = r

/-- How a reference is named: as its target says, or else as a definition. -/
def styleOf (r : String) : Style :=
  match targetOf? options d r with
  | some x => x.style
  | none => options.definitions.toStyle

/-- What a reference is declared from: its target, or else what it leads to. -/
def leadsTo? (r : String) : Option Node :=
  match targetOf? options d r with
  | some x => some x.node
  | none => d.resolve? r

/-- The references that a name is asked for. -/
def asked : List String := (targets options d).flatMap fun x =>
  x.reference :: match targetOf? options d x.reference with
    | some first => holesIn options first.node
    | none => []

variable {options d} {r : String} {n : Node} {x : Target}

/-! ### The target of a reference -/

theorem targetOf?_mem (h : targetOf? options d r = some x) : x ∈ targets options d ∧ x.reference = r :=
  ⟨List.mem_of_find?_eq_some h, by simpa using List.find?_some h⟩

theorem mem_asked : r ∈ asked options d ↔
    ∃ x, targetOf? options d x.reference = some x ∧ (r = x.reference ∨ r ∈ holesIn options x.node) := by
  rw [asked, List.mem_flatMap]
  constructor
  · rintro ⟨x, hx, hr⟩
    obtain ⟨first, hfirst⟩ := Option.isSome_iff_exists.1
      (List.find?_isSome (p := fun y : Target => y.reference = x.reference).2 ⟨x, hx, by simp⟩)
    have href : first.reference = x.reference := by simpa using List.find?_some hfirst
    have hown : targetOf? options d first.reference = some first := href ▸ hfirst
    rw [← href, hown] at hr
    exact ⟨first, hown, List.mem_cons.1 hr⟩
  · rintro ⟨x, hx, hr⟩
    refine ⟨x, (targetOf?_mem hx).1, ?_⟩
    rw [hx]
    exact List.mem_cons.2 hr

theorem find?_components {α : Type} (m : Keyed α) (node : α → Node) (style : Style) (family family' : Pointer.Family)
    (name : String) :
    (m.map fun p => (⟨Pointer.toComponent family p.1, node p.2, style⟩ : Target)).find?
        (fun x => x.reference = Pointer.toComponent family' name)
      = if family = family' then
          (Keyed.get? m name).map fun a => ⟨Pointer.toComponent family' name, node a, style⟩
        else none := by
  induction m with
  | nil => simp [Keyed.get?]
  | cons p m ih =>
    rw [List.map_cons, List.find?_cons, ih, Keyed.get?]
    by_cases hf : family = family'
    · subst hf
      by_cases hname : p.1 = name
      · subst hname
        simp
      · simp [Pointer.toComponent_inj, hname]
    · simp [Pointer.toComponent_inj, hf]

/-- What is declared for components. -/
def componentTargets (options : Options) (c : Components) : List Target :=
  (c.schemas.map fun p => ⟨Pointer.toComponent .schemas p.1, p.2, options.definitions.toStyle⟩)
    ++ (c.parameters.map fun p => ⟨Pointer.toComponent .parameters p.1, p.2.schema, options.definitions.toStyle⟩)
    ++ (c.requestBodies.map fun p => ⟨Pointer.toComponent .requestBodies p.1, p.2.schema, options.definitions.toStyle⟩)

theorem targets_eq (options : Options) (d : Document) : targets options d =
    componentTargets options d.components ++ d.operations.flatMap fun o => targetsOf options (.operation o) := by
  simp only [targets, Document.events, List.flatMap_append, List.flatMap_map, componentTargets]
  rw [List.map_eq_flatMap, List.map_eq_flatMap, List.map_eq_flatMap]
  rfl

theorem target?_of_operation {o : Operation} (hx : x ∈ targetsOf options (.operation o)) :
    Pointer.target? x.reference = none := by
  rcases mem_targetsOf_operation hx with ⟨-, rfl⟩ | ⟨-, n, -, rfl⟩
  · exact o.target?_requestReference
  · exact o.target?_responseReference

/-- **Under the pointer to a component the component is declared first.** -/
theorem targetOf?_toComponent (family : Pointer.Family) (name : String) :
    targetOf? options d (Pointer.toComponent family name) = (d.components.find? family name).map fun n =>
      ⟨Pointer.toComponent family name, n, options.definitions.toStyle⟩ := by
  have operations : (d.operations.flatMap fun o => targetsOf options (.operation o)).find?
      (fun x => x.reference = Pointer.toComponent family name) = none := by
    refine List.find?_eq_none.2 fun x hx => ?_
    obtain ⟨o, -, hx⟩ := List.mem_flatMap.1 hx
    intro heq
    have hnone := target?_of_operation hx
    rw [of_decide_eq_true heq, Pointer.target?_toComponent] at hnone
    cases hnone
  rw [targetOf?, targets_eq, componentTargets, List.find?_append, List.find?_append, List.find?_append,
    find?_components d.components.schemas (fun n => n), find?_components, find?_components, operations]
  cases family <;> simp [Components.find?, Function.comp_def]

theorem targetOf?_resolved (options : Options) (h : d.resolve? r = some n) :
    targetOf? options d r = none ∨ targetOf? options d r = some ⟨r, n, options.definitions.toStyle⟩ := by
  cases hx : targetOf? options d r with
  | none => exact .inl rfl
  | some x =>
    refine .inr ?_
    obtain ⟨hmem, rfl⟩ := targetOf?_mem hx
    obtain ⟨e, he, hxe⟩ := mem_targets hmem
    have component {family : Pointer.Family} {name : String} (heq : x.reference = Pointer.toComponent family name) :
        some x = some ⟨x.reference, n, options.definitions.toStyle⟩ := by
      rw [heq, Document.resolve?_toComponent] at h
      rw [← hx, heq, targetOf?_toComponent, h]
      rfl
    simp only [Document.events, List.mem_append, List.mem_map] at he
    rcases he with ((⟨p, -, rfl⟩ | ⟨p, -, rfl⟩) | ⟨p, -, rfl⟩) | ⟨o, -, rfl⟩
    · exact component (congrArg Target.reference (List.mem_singleton.1 hxe))
    · exact component (congrArg Target.reference (List.mem_singleton.1 hxe))
    · exact component (congrArg Target.reference (List.mem_singleton.1 hxe))
    · rw [Document.resolve?, target?_of_operation hxe] at h
      cases h

theorem styleOf_resolved (h : d.resolve? r = some n) : styleOf options d r = options.definitions.toStyle := by
  rcases targetOf?_resolved options h with hx | hx <;> simp [styleOf, hx]

theorem leadsTo?_resolved (h : d.resolve? r = some n) : leadsTo? options d r = some n := by
  rcases targetOf?_resolved options h with hx | hx <;> simp [leadsTo?, hx, h]

theorem exists_targetOf?_resolved (options : Options) (h : d.resolve? r = some n) :
    ∃ x, targetOf? options d x.reference = some x ∧ x.node = n ∧ d.resolve? x.reference = some n := by
  obtain ⟨⟨family, name⟩, -, h⟩ := Option.bind_eq_some_iff.1 h
  have hfind : d.components.find? family name = some n := h
  refine ⟨⟨Pointer.toComponent family name, n, options.definitions.toStyle⟩, ?_, rfl, ?_⟩
  · rw [targetOf?_toComponent, hfind]
    rfl
  · rw [Document.resolve?_toComponent, hfind]

theorem exists_targetOf? (h : leadsTo? options d r = some n) :
    ∃ x, targetOf? options d x.reference = some x ∧ x.node = n := by
  unfold leadsTo? at h
  split at h
  · rename_i x hx
    cases h
    exact ⟨x, (targetOf?_mem hx).2 ▸ hx, rfl⟩
  · obtain ⟨x, hx, hnode, -⟩ := exists_targetOf?_resolved options h
    exact ⟨x, hx, hnode⟩

theorem holesIn_asked (h : leadsTo? options d r = some n) : holesIn options n ⊆ asked options d := by
  obtain ⟨x, hx, rfl⟩ := exists_targetOf? h
  exact fun _ hr => mem_asked.2 ⟨x, hx, .inr hr⟩

end Typeforge.Validator
