import Typeforge.Proofs.Types.Naming

/-!
# Filling the file of types

Declaring a component asks for a name for it and then, in order, for the names of all that its type refers to.
Only the latter can fail, at a reference that leads nowhere, and every reference that is asked for is
written down in the document.
-/

namespace Typeforge.Types

open Code Schema

/-! ### What a declaration refers to -/

def Shape.refs : Shape → List String
  | .interface members => memberRefs members
  | .typeAlias type => type.refs

/-- The shape with the names in the places of what it refers to. -/
def Shape.renamed (names : List String) : Shape → Shape
  | .interface members => .interface (renamedMembers members names)
  | .typeAlias type => .typeAlias (type.renamed names)

section Steps

variable {options : Options} {d : Document} {n : Node} {r : String}

theorem named_eq (s : Shape) :
    named options d s = s.refs.mapM (nameOfTarget options d) >>= fun names => pure (s.renamed names) := by
  cases s with
  | interface members => simp [named, Shape.refs, Shape.renamed, namingMembers_eq]
  | typeAlias type => simp [named, Shape.refs, Shape.renamed, naming_eq]

theorem ofNode_refs (h : r ∈ (Shape.ofNode n).refs) : r ∈ n.references := by
  unfold Shape.ofNode at h
  split at h
  · exact members_refs (fun m _ => shape_refs m) n.isRequired r h
  · exact shape_refs n r h

/-! ### Failures -/

theorem fails_assignName {P : Failure → Prop} : Fails P (assignName options r) := by
  intro s e t h
  cases (ends_modifyGet.1 h).1

theorem fails_nameOfTarget (hr : r ∈ d.references) : Fails d.Dangling (nameOfTarget options d r) := by
  unfold nameOfTarget
  cases hn : d.resolve? r with
  | some n => exact fails_assignName
  | none =>
    intro s e t h
    cases (ends_throw.1 h).1
    exact ⟨r, hr, hn, rfl⟩

/-- What is added to a file under a name. -/
def addShape (options : Options) (n : Node) (name : String) (s : Shape) (file : File) : File :=
  let comment := if options.comments then commentOn n.toAttributes else []
  (if comment.isEmpty then file else file.add (.doc comment)).add (s.statement name)

/-- Declaring is asking for the names in order and then adding the statements. -/
theorem declare_eq : declare options d r n =
    assignName options r >>= fun name => (Shape.ofNode n).refs.mapM (nameOfTarget options d) >>= fun names =>
      modify (addShape options n name ((Shape.ofNode n).renamed names)) := by
  unfold declare
  simp only [named_eq, bind_assoc, pure_bind]
  refine bind_congr fun name => bind_congr fun names => ?_
  unfold addShape
  cases hc : (if options.comments then commentOn n.toAttributes else []).isEmpty
  · simp only [hc]
    rfl
  · simp only [hc]
    rfl

theorem fails_declare (hn : n.references ⊆ d.references) : Fails d.Dangling (declare options d r n) := by
  rw [declare_eq]
  refine Fails.bind fails_assignName fun name => Fails.bind (Fails.mapM fun r' hr' => ?_) fun names => ?_
  · exact fails_nameOfTarget (hn (ofNode_refs hr'))
  · intro s e t h
    cases (ends_modify.1 h).1

theorem fails_declareEvent {e : Event} (he : e ∈ d.events) : Fails d.Dangling (declareEvent options d e) := by
  unfold declareEvent
  split
  · rename_i reference n _ hnode
    refine fails_declare fun r hr => ?_
    exact Document.components_references (Document.references_of_component (Document.node?_mem he hnode) hr)
  · exact Fails.pure _

variable {file : File}

theorem fillFile_cases (options : Options) (d : Document) (file : File) :
    (∃ t, Ends (d.visit [.schema, .parameter, .requestBody] (declareEvent options d)) file (.ok ()) t ∧
      fillFile options d file = .ok t) ∨
    ∃ e t, Ends (d.visit [.schema, .parameter, .requestBody] (declareEvent options d)) file (.error e) t ∧
      fillFile options d file = .error e := by
  unfold fillFile
  rcases h : (d.visit [.schema, .parameter, .requestBody] (declareEvent options d)).run.run file with ⟨e | ⟨⟩, t⟩
  · exact .inr ⟨e, t, h, rfl⟩
  · exact .inl ⟨t, h, rfl⟩

theorem fillFile_error {e : Failure} (h : fillFile options d file = .error e) : d.Dangling e := by
  have fails : Fails d.Dangling (d.visit [.schema, .parameter, .requestBody] (declareEvent options d)) :=
    Fails.forM fun event he => fails_declareEvent (List.mem_filter.1 he).1
  rcases fillFile_cases options d file with ⟨t, -, hok⟩ | ⟨e', t, hends, herror⟩
  · rw [hok] at h
    cases h
  · rw [herror] at h
    cases h
    exact fails _ _ _ hends

theorem exists_fillFile (hall : ∀ r ∈ d.references, d.resolve? r ≠ none) :
    ∃ filled, fillFile options d file = .ok filled := by
  cases h : fillFile options d file with
  | ok filled => exact ⟨filled, rfl⟩
  | error e =>
    obtain ⟨r, hr, hnone, -⟩ := fillFile_error h
    exact absurd hnone (hall r hr)

end Steps

end Typeforge.Types
