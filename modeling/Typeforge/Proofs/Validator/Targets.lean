import Typeforge.Proofs.Validator.Session

/-!
# What a document has declared

A component is declared under the pointer to it; an operation has its request and the response to it
declared, as far as their families are enabled. Each of them is a `Target`, and the run over a document is the
run over its targets in order (`declareAll_eq`), each in a session of its own.
-/

namespace Typeforge.Validator

open Schema Naming

/-- What is to be declared: a node, the reference that stands for it, and how the reference is named. -/
structure Target where
  reference : String
  node : Node
  style : Style

/-- What an event has declared. -/
def targetsOf (options : Options) : Event → List Target
  | .schema r n => [⟨r, n, options.definitions.toStyle⟩]
  | .parameter r p => [⟨r, p.schema, options.definitions.toStyle⟩]
  | .requestBody r b => [⟨r, b.schema, options.definitions.toStyle⟩]
  | .operation o =>
    (if options.requests.enabled then [⟨o.requestReference, o.requestNode, options.requests.toStyle⟩] else [])
      ++ match o.response with
        | some n => if options.responses.enabled then [⟨o.responseReference, n, options.responses.toStyle⟩] else []
        | none => []

/-- What a document has declared, in order. -/
def targets (options : Options) (d : Document) : List Target := d.events.flatMap (targetsOf options)

/-- Declares a target in a session of its own. -/
def declareTarget (task : Task) (x : Target) : Compile Unit :=
  apart task.options.definitions.toStyle (declare task x.reference x.node x.style)

theorem ends_declareTarget {task : Task} {x : Target} {result : Except Failure Unit} {s t : Session}
    (h : Ends (declareTarget task x) s result t) : ∃ declared u,
      Ends (declareWith task.options (follow task (followBudget task.document)) x.reference x.node x.style)
        (s.alone task.options.definitions.toStyle) declared u ∧
      result = declared.map (fun _ => ()) ∧ t = s.rejoined u := by
  unfold Ends declareTarget at h
  rw [run_apart, run_declare] at h
  rcases hu : (declareWith task.options (follow task (followBudget task.document)) x.reference x.node x.style).run.run
    (s.alone task.options.definitions.toStyle) with ⟨e | name, u⟩
  all_goals
    rw [hu] at h
    cases h
    exact ⟨_, u, hu, rfl, rfl⟩

theorem ends_declareTarget_ok {task : Task} {x : Target} {s t : Session} (h : Ends (declareTarget task x) s (.ok ()) t) :
    ∃ name u, Ends (declareWith task.options (follow task (followBudget task.document)) x.reference x.node x.style)
      (s.alone task.options.definitions.toStyle) (.ok name) u ∧ t = s.rejoined u := by
  obtain ⟨declared, u, hu, hresult, rfl⟩ := ends_declareTarget h
  cases declared with
  | error e => cases hresult
  | ok name => exact ⟨name, u, hu, rfl⟩

/-! ### The run over the targets -/

section Run

variable {task : Task} {m : Type → Type} [Monad m] [LawfulMonad m] {α : Type}

theorem forM_singleton (f : α → m PUnit) (a : α) : [a].forM f = f a := by
  show (f a >>= fun _ => pure ⟨⟩) = f a
  exact bind_pure (f a)

theorem forM_flatMap {β : Type} (f : β → m PUnit) (g : α → List β) (as : List α) :
    (as.flatMap g).forM f = as.forM fun a => (g a).forM f := by
  simp only [List.forM_eq_forM] at *
  induction as with
  | nil => rfl
  | cons a as ih => rw [List.flatMap_cons, List.forM_append, ih, List.forM_cons]

/-- **An event has its targets declared.** -/
theorem declareEvent_eq (e : Event) :
    declareEvent task e = (targetsOf task.options e).forM (declareTarget task) := by
  cases e with
  | schema r n => exact (forM_singleton _ _).symm
  | parameter r p => exact (forM_singleton _ _).symm
  | requestBody r b => exact (forM_singleton _ _).symm
  | operation o =>
    rw [targetsOf, List.forM_eq_forM, List.forM_append]
    unfold declareEvent declareOperation
    simp only
    congr 1
    · split
      · exact (forM_singleton _ _).symm
      · rfl
    · funext _
      cases o.response with
      | none => rfl
      | some n =>
        simp only
        split
        · exact (forM_singleton _ _).symm
        · rfl

theorem declareAll_eq : declareAll task = (targets task.options task.document).forM (declareTarget task) := by
  have all : ∀ e ∈ task.document.events,
      [EventKind.operation, .parameter, .requestBody, .schema].contains e.kind = true := by
    intro e _
    cases e <;> rfl
  rw [declareAll, Document.visit, List.filter_eq_self.2 all, targets, forM_flatMap]
  congr 1
  funext e
  exact declareEvent_eq e

end Run

/-! ### The references of a target -/

section References

variable {options : Options} {d : Document} {e : Event} {x : Target}

/-- The references that stand for what an event has declared. -/
def ownReferences : Event → List String
  | .schema r _ | .parameter r _ | .requestBody r _ => [r]
  | .operation o => [o.requestReference, o.responseReference]

theorem mem_targetsOf_operation {o : Operation} (h : x ∈ targetsOf options (.operation o)) :
    (options.requests.enabled = true ∧ x = ⟨o.requestReference, o.requestNode, options.requests.toStyle⟩) ∨
      (options.responses.enabled = true ∧ ∃ n, o.response = some n ∧
        x = ⟨o.responseReference, n, options.responses.toStyle⟩) := by
  rw [targetsOf, List.mem_append] at h
  rcases h with h | h
  · split at h
    · rename_i henabled
      exact .inl ⟨henabled, List.mem_singleton.1 h⟩
    · simp at h
  · split at h
    · rename_i n hn
      split at h
      · rename_i henabled
        exact .inr ⟨henabled, n, hn, List.mem_singleton.1 h⟩
      · simp at h
    · simp at h

theorem reference_mem_ownReferences (h : x ∈ targetsOf options e) : x.reference ∈ ownReferences e := by
  cases e with
  | operation o =>
    rcases mem_targetsOf_operation h with ⟨-, rfl⟩ | ⟨-, n, -, rfl⟩
    · exact List.mem_cons_self
    · exact List.mem_cons_of_mem _ List.mem_cons_self
  | schema | parameter | requestBody =>
    cases List.mem_singleton.1 h
    exact List.mem_cons_self

theorem target_references (he : e ∈ d.events) (h : x ∈ targetsOf options e) :
    x.node.references ⊆ d.references := by
  have component (n : Node) (hn : e.node? = some n) : n.references ⊆ d.references := fun _ hr =>
    Document.components_references (Document.references_of_component (Document.node?_mem he hn) hr)
  cases e with
  | operation o =>
    have ho := Document.references_of_operation (Document.operation_mem he)
    rcases mem_targetsOf_operation h with ⟨-, rfl⟩ | ⟨-, n, hn, rfl⟩
    · exact fun _ hr => ho (o.requestNode_references hr)
    · exact fun _ hr => ho (Operation.response_references hn hr)
  | schema | parameter | requestBody =>
    cases List.mem_singleton.1 h
    exact component _ rfl

theorem exists_target (options : Options) {r : String} (he : e ∈ d.events) (hr : e.reference? = some r) :
    ∃ x ∈ targets options d, x.reference = r := by
  obtain ⟨x, hx, rfl⟩ : ∃ x ∈ targetsOf options e, x.reference = r := by
    cases e with
    | operation => cases hr
    | schema | parameter | requestBody =>
      cases hr
      exact ⟨_, List.mem_singleton.2 rfl, rfl⟩
  exact ⟨x, List.mem_flatMap.2 ⟨e, he, hx⟩, rfl⟩

theorem mem_targets (h : x ∈ targets options d) : ∃ e ∈ d.events, x ∈ targetsOf options e := List.mem_flatMap.1 h

end References

end Typeforge.Validator
