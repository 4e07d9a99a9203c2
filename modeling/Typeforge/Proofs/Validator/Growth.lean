import Typeforge.Proofs.Validator.Targets
import Mathlib.Data.Finset.Card
import Mathlib.Data.Finset.Dedup

/-!
# How a session grows

Whatever a step comes to, a session only gains names and declarations: each name goes to a reference that
had none, no reference gets two, and of the names that are new each is declared at most once (`Growth`). The
references that may get names are limited by a property that is closed under following.

* `keeps_declareWith`, `keeps_followStep`: one step, when the steps inside it do the same;
* `keeps_followOr`: a way of any length, by induction on the budget;
* `keeps_declareEvent`: an event of the document.
-/

namespace Typeforge.Validator

open Schema Naming

/-- From `s` to `t` the names `ns` and the declarations `ds` were added, names only to references that are
allowed. -/
structure Growth (allowed : String → Prop) (s t : Session) (ns : Table) (ds : List Declaration) : Prop where
  names : t.names = s.names ++ ns
  declarations : t.declarations = s.declarations ++ ds
  following : t.following = s.following
  style : t.style = s.style
  distinct : (Keyed.keys ns).Nodup
  unnamed : ∀ r ∈ Keyed.keys ns, s.names.nameOf? r = none
  allowed : ∀ r ∈ Keyed.keys ns, allowed r
  once : (ds.map (·.name)).Subperm ns.taken

/-- From `s` to `t` only names and declarations were added. -/
def Grows (allowed : String → Prop) (s t : Session) : Prop := ∃ ns ds, Growth allowed s t ns ds

section Relation

variable {allowed : String → Prop} {s t u : Session}

theorem Grows.refl (s : Session) : Grows allowed s s :=
  ⟨[], [], by simp, by simp, rfl, rfl, List.nodup_nil, by simp [Keyed.keys], by simp [Keyed.keys], by simp⟩

theorem Grows.trans (s t u : Session) (h : Grows allowed s t) (h' : Grows allowed t u) : Grows allowed s u := by
  obtain ⟨ns, ds, h⟩ := h
  obtain ⟨ns', ds', h'⟩ := h'
  have keys : Keyed.keys (ns ++ ns') = Keyed.keys ns ++ Keyed.keys ns' := List.map_append
  -- a reference that is named in the second part had no name after the first
  have later : ∀ r ∈ Keyed.keys ns', r ∉ Keyed.keys ns ∧ s.names.nameOf? r = none := by
    intro r hr
    have hnone := h'.unnamed r hr
    rw [Table.nameOf?_eq_none_iff, h.names, Keyed.keys, List.map_append, List.mem_append, not_or] at hnone
    exact ⟨hnone.2, Table.nameOf?_eq_none_iff.2 hnone.1⟩
  refine ⟨ns ++ ns', ds ++ ds', ?_, ?_, h'.following.trans h.following, h'.style.trans h.style, ?_, ?_, ?_, ?_⟩
  · rw [h'.names, h.names, List.append_assoc]
  · rw [h'.declarations, h.declarations, List.append_assoc]
  · rw [keys]
    refine List.nodup_append.2 ⟨h.distinct, h'.distinct, fun a ha b hb => ?_⟩
    rintro rfl
    exact (later a hb).1 ha
  · rw [keys]
    exact fun r hr => (List.mem_append.1 hr).elim (h.unnamed r) fun hr => (later r hr).2
  · rw [keys]
    exact fun r hr => (List.mem_append.1 hr).elim (h.allowed r) (h'.allowed r)
  · rw [Table.taken, List.map_append, List.map_append]
    exact h.once.append h'.once

theorem Grows.nameOf? (h : Grows allowed s t) {r name : String} (hr : s.names.nameOf? r = some name) :
    t.names.nameOf? r = some name := by
  obtain ⟨ns, ds, h⟩ := h
  rw [h.names]
  exact Keyed.get?_append_of_some hr

theorem Grows.nameOf?_eq_none (h : Grows allowed s t) {r : String} (hr : t.names.nameOf? r = none) :
    s.names.nameOf? r = none := by
  cases hs : s.names.nameOf? r with
  | none => rfl
  | some name => rw [h.nameOf? hs] at hr; cases hr

theorem Grows.marked (h : Grows allowed s t) (p : Bool) : Grows allowed s (t.marked p) := by
  obtain ⟨ns, ds, h⟩ := h
  exact ⟨ns, ds, by simpa using h.names, by simpa using h.declarations, by simpa using h.following,
    by simpa using h.style, h.distinct, h.unnamed, h.allowed, h.once⟩

/-- Looking at an event apart adds what it adds in a session of its own. -/
theorem Grows.rejoined {style : Style} (h : Grows allowed (s.alone style) t) : Grows allowed s (s.rejoined t) := by
  obtain ⟨ns, ds, h⟩ := h
  exact ⟨ns, ds, h.names, h.declarations, rfl, rfl, h.distinct, h.unnamed, h.allowed, h.once⟩

variable {r : String} {style : Style}

/-- What is added while a reference is followed, seen from before it got its name. -/
theorem Growth.left {ns : Table} {ds : List Declaration} (hr : s.names.nameOf? r = none) (ha : allowed r)
    (h : Growth allowed ((s.naming r style).entering r) u ns ds) :
    Growth allowed s (s.leaving r u) ((r, s.names.nextName r style) :: ns) ds := by
  have hnames := h.names
  simp only [Session.entering_names, Session.naming_names] at hnames
  have hunnamed : ∀ r' ∈ Keyed.keys ns, r' ≠ r ∧ s.names.nameOf? r' = none := by
    intro r' hr'
    have := h.unnamed r' hr'
    simp only [Session.entering_names, Session.naming_names, Table.nameOf?_eq_none_iff, Keyed.keys, List.map_append,
      List.map_singleton, List.mem_append, List.mem_singleton, not_or] at this
    exact ⟨this.2, Table.nameOf?_eq_none_iff.2 this.1⟩
  refine ⟨?_, ?_, ?_, ?_, ?_, ?_, ?_, ?_⟩
  · simp [hnames]
  · simpa using h.declarations
  · exact Session.leaving_following h.following
  · simpa using h.style
  · exact List.nodup_cons.2 ⟨fun hmem => (hunnamed r hmem).1 rfl, h.distinct⟩
  · intro r' hr'
    rcases List.mem_cons.1 hr' with rfl | hr'
    · exact hr
    · exact (hunnamed r' hr').2
  · intro r' hr'
    rcases List.mem_cons.1 hr' with rfl | hr'
    · exact ha
    · exact h.allowed r' hr'
  · exact h.once.trans (List.sublist_cons_self _ _).subperm

theorem Growth.declared {ns : Table} {ds : List Declaration} {d : Declaration} (hr : s.names.nameOf? r = none)
    (ha : allowed r) (hd : d.name = s.names.nextName r style)
    (h : Growth allowed ((s.naming r style).entering r) u ns ds) :
    Growth allowed s ((s.leaving r u).declaring d) ((r, s.names.nextName r style) :: ns) (ds ++ [d]) := by
  refine { h.left hr ha with declarations := ?_, once := ?_ }
  · rw [Session.declaring_declarations, (h.left hr ha).declarations, List.append_assoc]
  · rw [List.map_append, List.map_singleton, hd]
    exact (List.perm_append_singleton _ _).subperm.trans ((List.subperm_cons _).2 h.once)

end Relation

/-! ### One step -/

section Step

variable {allowed : String → Prop} {task : Task} {inner : String → Compile Use} {r : String} {n : Node}

theorem keeps_declareWith {style : Style} (ha : allowed r)
    (hinner : ∀ r' ∈ holesIn task.options n, Keeps (Grows allowed) (inner r')) :
    Keeps (Grows allowed) (declareWith task.options inner r n style) := by
  intro s res t h
  have inside : Keeps (Grows allowed) ((holesIn task.options n).mapM inner) :=
    Keeps.mapM Grows.refl Grows.trans hinner
  cases declareResult_of_ends h with
  | named => exact Grows.refl s
  | declared hr hu =>
    obtain ⟨ns, ds, growth⟩ := inside _ _ _ hu
    exact ⟨_, _, growth.declared hr ha rfl⟩
  | failed hr hu =>
    obtain ⟨ns, ds, growth⟩ := inside _ _ _ hu
    exact ⟨_, _, growth.left hr ha⟩

theorem keeps_followStep (ha : task.document.resolve? r ≠ none → allowed r)
    (hinner : ∀ n, task.document.resolve? r = some n →
      ∀ r' ∈ holesIn task.options n, Keeps (Grows allowed) (inner r')) :
    Keeps (Grows allowed) (followStep task inner r) := by
  intro s res t h
  cases followResult_of_ends h with
  | named => exact (Grows.refl s).marked _
  | found hr hn hu => exact (keeps_declareWith (ha (by simp [hn])) (hinner _ hn) _ _ _ hu).marked _
  | failed hr hn hu => exact keeps_declareWith (ha (by simp [hn])) (hinner _ hn) _ _ _ hu
  | dangling => exact Grows.refl s

end Step

/-! ### Ways of any length -/

section Ways

variable {allowed : String → Prop} {task : Task}

/-- The property goes on to the holes of whatever a reference with it leads to. -/
def Closed (task : Task) (allowed : String → Prop) : Prop :=
  ∀ r n, allowed r → task.document.resolve? r = some n → ∀ r' ∈ holesIn task.options n, allowed r'

/-- Following, where `gone` is done when the budget has run out. -/
def followOr (task : Task) (gone : String → Compile Use) : Nat → String → Compile Use
  | 0 => gone
  | budget + 1 => followStep task (followOr task gone budget)

theorem follow_eq_followOr (budget : Nat) :
    follow task budget = followOr task (fun r => throw (.danglingReference r)) budget := by
  induction budget with
  | zero => rfl
  | succ budget ih =>
    funext r
    rw [follow_succ, followOr, ih]

theorem keeps_followOr {gone : String → Compile Use} (closed : Closed task allowed)
    (hgone : ∀ r, allowed r → Keeps (Grows allowed) (gone r)) {r : String} (ha : allowed r) (budget : Nat) :
    Keeps (Grows allowed) (followOr task gone budget r) := by
  induction budget generalizing r with
  | zero => exact hgone r ha
  | succ budget ih => exact keeps_followStep (fun _ => ha) fun n hn r' hr' => ih (closed r n ha hn r' hr')

theorem keeps_follow (closed : Closed task allowed) {r : String} (ha : allowed r) (budget : Nat) :
    Keeps (Grows allowed) (follow task budget r) := by
  rw [follow_eq_followOr]
  refine keeps_followOr closed (fun r _ s res t h => ?_) ha budget
  rw [(ends_throw.1 h).2]
  exact Grows.refl s

theorem keeps_follow_resolved (h : ∀ r, task.document.resolve? r ≠ none → allowed r) (budget : Nat) (r : String) :
    Keeps (Grows allowed) (follow task budget r) := by
  induction budget generalizing r with
  | zero =>
    intro s res t hends
    rw [(ends_throw.1 hends).2]
    exact Grows.refl s
  | succ budget ih => exact keeps_followStep (h r) fun n hn r' hr' => ih r'

theorem keeps_follow_all (budget : Nat) (r : String) : Keeps (Grows fun _ => True) (follow task budget r) :=
  keeps_follow_resolved (fun _ _ => trivial) budget r

end Ways

/-! ### Targets and events -/

section Events

variable {allowed : String → Prop} {task : Task}

theorem keeps_declareTarget {x : Target} (ha : allowed x.reference)
    (hinner : ∀ r ∈ holesIn task.options x.node,
      Keeps (Grows allowed) (follow task (followBudget task.document) r)) :
    Keeps (Grows allowed) (declareTarget task x) := by
  intro s res t h
  obtain ⟨declared, u, hu, -, rfl⟩ := ends_declareTarget h
  have grows : Keeps (Grows allowed)
      (declareWith task.options (follow task (followBudget task.document)) x.reference x.node x.style) :=
    keeps_declareWith ha hinner
  exact (grows _ _ _ hu).rejoined

/-- The references that an event can give names to: its own, and all that the document writes down. -/
def Reachable (d : Document) (e : Event) (r : String) : Prop := r ∈ d.references ∨ r ∈ ownReferences e

theorem holesIn_resolve? {r r' : String} {n : Node} (hn : task.document.resolve? r = some n)
    (hr : r' ∈ holesIn task.options n) : r' ∈ task.document.references :=
  Document.components_references (Document.references_of_component (Document.resolve?_mem hn) (outline_holes _ hr))

theorem closed_reachable (e : Event) : Closed task (Reachable task.document e) :=
  fun _ _ _ hn _ hr => .inl (holesIn_resolve? hn hr)

/-- **An event adds only names and declarations of references that it can reach.** -/
theorem keeps_declareEvent {e : Event} (he : e ∈ task.document.events) :
    Keeps (Grows (Reachable task.document e)) (declareEvent task e) := by
  rw [declareEvent_eq]
  refine Keeps.forM Grows.refl Grows.trans fun x hx => ?_
  refine keeps_declareTarget (.inr (reference_mem_ownReferences hx)) fun r hr => ?_
  exact keeps_follow (closed_reachable e) (.inl (target_references he hx (outline_holes _ hr))) _

theorem Growth.length_le {d : Document} {e : Event} {s t : Session} {ns : Table} {ds : List Declaration}
    (h : Growth (Reachable d e) s t ns ds) :
    ds.length ≤ (d.references.toFinset.filter fun r => s.names.nameOf? r = none).card
      + (ownReferences e).length := by
  have inside : (Keyed.keys ns).toFinset ⊆
      (d.references.toFinset.filter fun r => s.names.nameOf? r = none) ∪ (ownReferences e).toFinset := by
    intro r hr
    rw [List.mem_toFinset] at hr
    rw [Finset.mem_union, Finset.mem_filter, List.mem_toFinset, List.mem_toFinset]
    exact (h.allowed r hr).imp (fun hd => ⟨hd, h.unnamed r hr⟩) id
  calc ds.length = (ds.map (·.name)).length := (List.length_map _).symm
    _ ≤ ns.taken.length := h.once.length_le
    _ = (Keyed.keys ns).length := by simp [Table.taken, Keyed.keys]
    _ = (Keyed.keys ns).toFinset.card := (List.toFinset_card_of_nodup h.distinct).symm
    _ ≤ _ := Finset.card_le_card inside
    _ ≤ _ := (Finset.card_union_le _ _).trans (Nat.add_le_add_left (List.toFinset_card_le _) _)

end Events

end Typeforge.Validator
