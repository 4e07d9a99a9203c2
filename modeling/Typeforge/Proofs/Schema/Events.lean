import Typeforge.Proofs.Schema.Decoding
import Typeforge.Proofs.Schema.Pointers
import Mathlib.Data.List.Forall2

/-!
# What the references of events lead back to

The components of a document are shown one after the other, each with the pointer to it (`events_eq`). Where the
components have distinct names, as in each decoded document, the pointer leads back to the component that is shown: it
resolves to the schema, its base name is the name, and no other event has it (`LeadBack`).
-/

namespace Typeforge.Schema

/-- A component: the family that it is in, its name there, and its schema. -/
structure Component where
  family : Pointer.Family
  name : String
  node : Node

def Component.pointer (c : Component) : String := Pointer.toComponent c.family c.name

/-- The components in the order of the document. -/
def Components.listed (c : Components) : List Component :=
  (c.schemas.map fun p => ⟨.schemas, p.1, p.2⟩)
    ++ (c.parameters.map fun p => ⟨.parameters, p.1, p.2.schema⟩)
    ++ (c.requestBodies.map fun p => ⟨.requestBodies, p.1, p.2.schema⟩)

/-- The event shows the component under the pointer to it. -/
structure Event.Shows (e : Event) (c : Component) : Prop where
  reference : e.reference? = some c.pointer
  node : e.node? = some c.node

section Components

variable {c : Components} {x : Component}

theorem find?_listed (h : c.Distinct) (hx : x ∈ c.listed) : c.find? x.family x.name = some x.node := by
  simp only [Components.listed, List.mem_append, List.mem_map] at hx
  rcases hx with (⟨p, hp, rfl⟩ | ⟨p, hp, rfl⟩) | ⟨p, hp, rfl⟩
  · exact Keyed.get?_of_mem h.schemas hp
  · have hget := Keyed.get?_of_mem h.parameters hp
    simp [Components.find?, hget]
  · have hget := Keyed.get?_of_mem h.requestBodies hp
    simp [Components.find?, hget]

theorem map_pointer_listed (c : Components) : c.listed.map Component.pointer =
    (Keyed.keys c.schemas).map (Pointer.toComponent .schemas)
      ++ (Keyed.keys c.parameters).map (Pointer.toComponent .parameters)
      ++ (Keyed.keys c.requestBodies).map (Pointer.toComponent .requestBodies) := by
  simp only [Components.listed, List.map_append, List.map_map, Keyed.keys, Function.comp_def, Component.pointer]

theorem nodup_map_pointer (h : c.Distinct) : (c.listed.map Component.pointer).Nodup := by
  have family {names : List String} (hnames : names.Nodup) (f : Pointer.Family) :
      (names.map (Pointer.toComponent f)).Nodup := hnames.map fun _ _ heq => (Pointer.toComponent_inj.1 heq).2
  have apart {names names' : List String} {f f' : Pointer.Family} (hf : f ≠ f') :
      ∀ a ∈ names.map (Pointer.toComponent f), ∀ b ∈ names'.map (Pointer.toComponent f'), a ≠ b := by
    intro a ha b hb heq
    obtain ⟨key, -, rfl⟩ := List.mem_map.1 ha
    obtain ⟨key', -, rfl⟩ := List.mem_map.1 hb
    exact hf (Pointer.toComponent_inj.1 heq).1
  rw [map_pointer_listed]
  refine List.nodup_append.2 ⟨List.nodup_append.2 ⟨family h.schemas _, family h.parameters _, apart (by decide)⟩,
    family h.requestBodies _, fun a ha b hb => ?_⟩
  rcases List.mem_append.1 ha with ha | ha
  · exact apart (by decide) a ha b hb
  · exact apart (by decide) a ha b hb

end Components

/-! ### Events -/

section Events

variable {d : Document} {e : Event} {i : Nat} {r : String}

/-- The components are shown first, each under the pointer to it, and then the operations. -/
theorem events_eq (d : Document) : ∃ shown, d.events = shown ++ d.operations.map .operation ∧
    List.Forall₂ Event.Shows shown d.components.listed := by
  refine ⟨_, rfl, List.rel_append (List.rel_append ?_ ?_) ?_⟩
  all_goals
    rw [List.forall₂_map_left_iff, List.forall₂_map_right_iff, List.forall₂_same]
    exact fun p _ => ⟨rfl, rfl⟩

theorem exists_shown (he : d.events[i]? = some e) (hr : e.reference? = some r) :
    ∃ c, d.components.listed[i]? = some c ∧ e.Shows c := by
  obtain ⟨shown, hevents, hshown⟩ := events_eq d
  rw [hevents] at he
  by_cases hi : i < shown.length
  · rw [List.getElem?_append_left hi] at he
    obtain ⟨hlt, rfl⟩ := List.getElem?_eq_some_iff.1 he
    have hlisted : i < d.components.listed.length := hshown.length_eq ▸ hi
    exact ⟨_, List.getElem?_eq_getElem hlisted, hshown.get hlt hlisted⟩
  · -- what comes after the components has no reference
    rw [List.getElem?_append_right (Nat.le_of_not_lt hi), List.getElem?_map, Option.map_eq_some_iff] at he
    obtain ⟨o, -, rfl⟩ := he
    cases hr

/-- What pointers to components are good for. -/
structure LeadBack (d : Document) : Prop where
  /-- In a segment, the tildes of the name are replaced, and then the slashes. -/
  written : ∀ s, Pointer.escape s = String.ofList (Text.replaceAll '/' [] ['~', '1']
    (Text.replaceAll '~' [] ['~', '0'] s.toList))
  /-- Read back, the slashes come first. -/
  read : ∀ s, Pointer.unescape s = String.ofList (Text.replaceAll '~' ['0'] ['~']
    (Text.replaceAll '~' ['1'] ['/'] s.toList))
  /-- A segment reads back as the name that it was written for. -/
  unescape : ∀ s, Pointer.unescape (Pointer.escape s) = s
  /-- The reference of an event is the pointer to the component in its place: it resolves to the schema that is shown,
  and its base name is the name of the component. -/
  shown : ∀ (i : Nat) (e : Event) (r : String), d.events[i]? = some e → e.reference? = some r →
    ∃ c, d.components.listed[i]? = some c ∧ e.Shows c ∧ d.resolve? r = some c.node ∧ Pointer.baseName r = c.name
  /-- No two events have one reference. -/
  distinct : ∀ (i j : Nat) (e e' : Event) (r : String), d.events[i]? = some e → d.events[j]? = some e' →
    e.reference? = some r → e'.reference? = some r → i = j

/-- **The references of events lead back to what they show**, whatever tildes and slashes are in the names. -/
theorem events_lead_back (h : d.components.Distinct) : LeadBack d where
  written := fun s => congrArg String.ofList (Pointer.escapeChars_eq_replaceAll _)
  read := fun s => congrArg String.ofList (Pointer.unescapeChars_eq_replaceAll _)
  unescape := by
    intro s
    simp [Pointer.unescape, Pointer.escape, Pointer.unescapeChars_escapeChars]
  shown := by
    intro i e r he hr
    obtain ⟨c, hc, hshows⟩ := exists_shown he hr
    obtain rfl : c.pointer = r := Option.some.inj (hshows.reference.symm.trans hr)
    refine ⟨c, hc, hshows, ?_, Pointer.baseName_toComponent _ _⟩
    rw [Component.pointer, Document.resolve?_toComponent]
    exact find?_listed h (List.mem_of_getElem? hc)
  distinct := by
    intro i j e e' r he he' hr hr'
    obtain ⟨c, hc, hshows⟩ := exists_shown he hr
    obtain ⟨c', hc', hshows'⟩ := exists_shown he' hr'
    have hpointer : c.pointer = c'.pointer := by
      rw [← Option.some_inj, ← hshows.reference, ← hshows'.reference, hr, hr']
    have hlt : i < (d.components.listed.map Component.pointer).length := by
      rw [List.length_map]
      exact (List.getElem?_eq_some_iff.1 hc).1
    refine (List.getElem?_inj hlt (nodup_map_pointer h)).1 ?_
    rw [List.getElem?_map, List.getElem?_map, hc, hc', Option.map_some, Option.map_some, hpointer]

/-- Schemas whose names hold tildes and slashes and what these are replaced by, and a parameter with one of the
names. -/
def awkward : Document where
  components := {
    schemas := [("a/b", { kind := some .string }), ("a~1b", { kind := some .null }), ("~01", { kind := some .boolean })]
    parameters := [("a/b", { name := "a", location := .query, schema := { kind := some .integer } })] }

theorem awkward_lead_back : awkward.components.Distinct ∧ LeadBack awkward := by
  have hdistinct : awkward.components.Distinct := ⟨by decide, by decide, by decide⟩
  exact ⟨hdistinct, events_lead_back hdistinct⟩

end Events

end Typeforge.Schema
