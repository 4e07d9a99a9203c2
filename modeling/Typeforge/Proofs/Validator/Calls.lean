import Typeforge.Proofs.Validator.Budget
import Typeforge.Proofs.Validator.Frame

/-!
# Calls within calls

Compiling a node goes through its outline, in which the validators of its parts stand already. Here the same is
said call by call. A part of a node is compiled by a call of its own, and what this call gives is piped (`part`). For
a reference the name is looked up, its target is compiled if there is none, and the name is looked up again
(`pointed`). What the calls give comes before the refinements of the node, and nothing is refined if they give nothing
(`refined`). So an empty answer of a call is not excluded by how the calls are put together: `pipe` makes of it the
validator that accepts every value.

* `traverse_base`, `traverseList_outline`: going through an outline is making these calls;
* `pointed_eq`: for a reference the calls give the use of its name and nothing else;
* `ends_compileWith_ok`: what a call gives and declares in the end.
-/

namespace Typeforge.Validator

open Code Schema Naming Sketch

section Calls

variable (task : Task)

/-- The use of what a reference leads to, with a budget that does not run out. -/
def Task.use (r : String) : Compile Use := follow task (followBudget task.document) r

theorem Task.use_eq (r : String) : task.use r = followStep task task.use r := (congrFun followStep_follow r).symm

/-- The validator of a part of a node: what compiling it gives, as one. -/
def part (n : Node) (optional : Bool) : Compile (Sketch Use) := Sketch.pipe <$> compile task n optional none

/-- The validators of a node that is nothing but a reference. -/
def pointed (r : String) : Compile (List (Sketch Use)) := do
  let s ← get
  let given ← match s.names.nameOf? r, task.document.resolve? r with
    | some _, _ => pure []
    | none, some n => compile task n false (some r)
    | none, none => throw (.danglingReference r)
  let t ← get
  match t.names.nameOf? r with
  | some name => do
    let use ← markedUse name (s.following.contains r)
    return given ++ [.use use]
  | none => return given

def element (n : Node) : Compile (Sketch Use) :=
  if n.itemList.isEmpty then return .closed unknown
  else do
    match ← n.deduplicate.itemList.mapM (part task · false) with
    | [only] => return only
    | several => return .dropping several unknown

/-- The validator of a node of some kind that is no constant. -/
def kinded (n : Node) : Kind → Compile (Sketch Use)
  | .array => do
    return .pipe (.make .array [← element task n] :: (lengthActions n.minItems n.maxItems).map .closed)
  | .object =>
    match n.propertyList, n.additional with
    | [], some additional =>
      if additional.kind = some .object then do
        return .make .record [.closed (Maker.string.apply []), ← part task additional false]
      else return .make .object [.object []]
    | ps, _ => do
      return .make .object [.object (← ps.mapM fun p => (.ofName p.1, ·) <$> part task p.2 (!n.isRequired p.1))]
  | .tuple =>
    match n.items with
    | none => return .closed unknown
    | some items => do return .make .tuple [.list (← items.mapM (part task · false))]
  -- the other kinds have no parts
  | kind => return (kindBase task.options.metadata n kind).fill []

/-- The validators of a node before its refinements. -/
def dispatched (n : Node) : Compile (List (Sketch Use)) :=
  match n.reference, n.kind with
  | some r, none => pointed task r
  | _, some kind =>
    match constantValidator? n.toAttributes kind with
    | some e => return [.closed e]
    | none => do return [← kinded task n kind]
  | none, none =>
    if n.isComposition then do
      return [.make (if n.operator = some .and then .intersect else .union)
        [.list (← n.itemList.mapM (part task · false))]]
    else return [.closed unknown]

/-- The validators with what comes after them, if there are any. -/
def refined (metadata optional : Bool) (a : Attributes) : List (Sketch Use) → List (Sketch Use)
  | [] => []
  | first :: rest =>
    let parts := first :: rest ++ (if metadata then fillAll (metadataActions a) [] else [])
      ++ (if a.accessScope = some .read then [.closed (Action.readonly.apply [])] else [])
    match a.default with
    | some v => [.make .optional [.pipe parts, .closed (defaultExpr a v)]]
    | none => if optional then [.make .optional [.pipe parts]] else parts

end Calls

/-! ### Going through lists -/

namespace Sketch

section Lists

variable {ρ σ : Type} {m : Type → Type} [Monad m] [LawfulMonad m] (f : ρ → m σ)

theorem traverseList_eq_mapM (ss : List (Sketch ρ)) : traverseList f ss = ss.mapM (traverse f) := by
  induction ss with
  | nil => rfl
  | cons s ss ih => rw [traverseList, ih, List.mapM_cons]

theorem traverseFields_eq_mapM (fs : List (Key × Sketch ρ)) :
    traverseFields f fs = fs.mapM fun p => (p.1, ·) <$> traverse f p.2 := by
  induction fs with
  | nil => rfl
  | cons p fs ih => simp [traverseFields, ih, List.mapM_cons]

theorem traverseList_closed (es : List Expr) : traverseList f (es.map .closed) = pure (es.map .closed) := by
  induction es with
  | nil => rfl
  | cons e es ih => simp [traverseList, traverse, ih]

theorem traverse_pipe (ss : List (Sketch ρ)) : traverse f (.pipe ss) = Sketch.pipe <$> traverseList f ss := by
  match ss with
  | [] => simp [pipe, traverse, traverseList]
  | [s] => simp [pipe, traverseList]
  | s :: s' :: ss => simp [pipe, traverse, traverseList]

end Lists

end Sketch

/-! ### Calls for the parts of a node -/

section Parts

variable (task : Task)

theorem compile_none (n : Node) (optional : Bool) :
    compile task n optional none = Sketch.traverseList task.use (outline task.options.metadata n optional) := by
  have plain {α : Type} (steps : Compile α) : following none steps = steps := rfl
  simp only [compile, compileWith, Option.join_none, pure_bind, plain]
  exact bind_pure _

theorem traverse_part (n : Node) (optional : Bool) :
    Sketch.traverse task.use (.pipe (outline task.options.metadata n optional)) = part task n optional := by
  rw [Sketch.traverse_pipe, part, compile_none]

theorem traverse_members (ns : List Node) :
    Sketch.traverseList task.use (members task.options.metadata ns) = ns.mapM (part task · false) := by
  rw [members_eq, Sketch.traverseList_eq_mapM, List.mapM_map]
  simp only [Function.comp_def, traverse_part]

theorem traverse_propertyMembers (required : String → Bool) (ps : List (String × Node)) :
    Sketch.traverseFields task.use (propertyMembers task.options.metadata required ps)
      = ps.mapM fun p => (.ofName p.1, ·) <$> part task p.2 (!required p.1) := by
  rw [propertyMembers_eq, Sketch.traverseFields_eq_mapM, List.mapM_map]
  simp only [Function.comp_def, traverse_part]

variable (n : Node)

/-- The schemas of elements are all compiled, and when there are several they are dropped. -/
theorem traverse_arrayBase : Sketch.traverse task.use (arrayBase task.options.metadata n) = kinded task n .array := by
  have bounds := Sketch.traverseList_closed task.use (lengthActions n.minItems n.maxItems)
  rw [arrayBase, Sketch.traverse_pipe, Sketch.traverseList, bounds]
  simp only [kinded, element]
  split
  · simp [Sketch.traverse, Sketch.traverseList]
  · match n.deduplicate.itemList with
    | [] => simp [members, Sketch.traverse, Sketch.traverseList]
    | [only] => simp [members, Sketch.traverse, Sketch.traverseList, traverse_part]
    | _ :: _ :: _ =>
      -- what is dropped is looked at all the same, in order
      simp [members, Sketch.traverse, Sketch.traverseList, List.mapM_cons, traverse_part, traverse_members]

theorem traverse_kindBase (kind : Kind) :
    Sketch.traverse task.use (kindBase task.options.metadata n kind) = kinded task n kind := by
  rw [kindBase.eq_def]
  cases kind with
  | array => exact traverse_arrayBase task n
  | object =>
    simp only [kinded, objectBase]
    split
    · split
      · simp [Sketch.traverse, Sketch.traverseList, traverse_part, *]
      · simp [Sketch.traverse, Sketch.traverseList, Sketch.traverseFields, *]
    · simp [Sketch.traverse, Sketch.traverseList, traverse_propertyMembers]
  | tuple =>
    simp only [kinded, tupleBase]
    cases hitems : n.items with
    | none => rfl
    | some items => simp [Sketch.traverse, Sketch.traverseList, traverse_members, Node.itemList, hitems]
  | boolean | enumeration | integer | number | never | null | string | undefined | unknown | void =>
    rw [kinded, kindBase.eq_def]
    · rfl
    all_goals rintro ⟨⟩

end Parts

/-! ### What a call comes to -/

section Ends

variable {task : Task} {options : Options} {f : String → Compile Use} {n : Node} {optional : Bool} {r : String}
  {reference : Option String} {answer : Option (Option Assigned)} {parts : List (Sketch Use)} {s t : Session}

/-- A name that was made just now. -/
def newName? : Option Assigned → Option String
  | some ⟨name, true⟩ => some name
  | _ => none

/-- **What a call gives and declares in the end.** With a new name it declares what is written, and gives nothing. -/
theorem ends_compileWith_ok {assigned : Option Assigned}
    (h : Ends (compileWith options f n optional reference assigned) s (.ok parts) t) :
    ∃ written u, Ends (following reference (Sketch.traverseList f (outline options.metadata n optional))) s
        (.ok written) u ∧
      ((newName? assigned = none ∧ parts = written ∧ t = u) ∨
        ∃ name comment, newName? assigned = some name ∧ parts = [] ∧
          t = u.declaring ⟨name, comment, u.postponed, .pipe written⟩) := by
  rw [compileWith, ends_bind_ok] at h
  obtain ⟨written, u, hu, h⟩ := h
  refine ⟨written, u, hu, ?_⟩
  split at h
  · rename_i name
    obtain ⟨⟨⟩, v, hv, h⟩ := ends_bind_ok.1 h
    obtain ⟨hparts, rfl⟩ := ends_pure.1 h
    cases hparts
    exact .inr ⟨name, _, rfl, rfl, (ends_modify.1 hv).2⟩
  · rename_i hold
    obtain ⟨hparts, rfl⟩ := ends_pure.1 h
    cases hparts
    refine .inl ⟨?_, rfl, rfl⟩
    unfold newName?
    split
    · exact absurd rfl (hold _)
    · rfl

theorem run_declareWith_call (hr : s.names.nameOf? r = none) (style : Style) :
    (declareWith options f r n style).run.run s =
      match (compileWith options f n false (some r) (some ⟨s.names.nextName r style, true⟩)).run.run
        (s.naming r style) with
      | (.ok _, u) => (.ok (s.names.nextName r style), u)
      | (.error e, u) => (.error e, u) := by
  rw [declareWith, run_bind, run_assignName, Table.assign_unnamed hr]
  show (do
    let _ ← compileWith options f n false (some r) (some ⟨s.names.nextName r style, true⟩)
    pure (s.names.nextName r style) : Compile String).run.run (s.naming r style) = _
  rw [run_bind]
  rcases (compileWith options f n false (some r) (some ⟨s.names.nextName r style, true⟩)).run.run
    (s.naming r style) with ⟨e | _, u⟩ <;> rfl

theorem run_compile_unnamed (hr : s.names.nameOf? r = none) :
    (compile task n optional (some r)).run.run s =
      (compileWith task.options task.use n optional (some r) (some ⟨s.names.nextName r s.style, true⟩)).run.run
        (s.naming r s.style) := by
  have asked : (some <$> (get >>= fun s : Session => assignName r s.style) : Compile (Option Assigned)).run.run s =
      (.ok (some ⟨s.names.nextName r s.style, true⟩), s.naming r s.style) := by
    show (Except.ok (some (s.names.assign r s.style).1), { s with names := (s.names.assign r s.style).2 }) = _
    rw [Table.assign_unnamed hr]
    rfl
  rw [compile, run_bind, asked]
  rfl

/-- The call for the target of a reference that has no name gives nothing, and leaves the name. -/
theorem ends_compile_unnamed (hr : s.names.nameOf? r = none)
    (h : Ends (compileWith task.options task.use n optional (some r) (some ⟨s.names.nextName r s.style, true⟩))
      (s.naming r s.style) (.ok parts) t) :
    parts = [] ∧ t.names.nameOf? r = some (s.names.nextName r s.style) := by
  constructor
  · obtain ⟨written, u, -, ⟨hnew, -, -⟩ | ⟨name, comment, -, hparts, -⟩⟩ := ends_compileWith_ok h
    · cases hnew
    · exact hparts
  · exact (keeps_compileWith (keeps_follow_kept _) _ _ _ _ _ h).nameOf? (Session.nameOf?_naming hr)

end Ends

/-! ### Calls for a node -/

section Nodes

variable (task : Task)

/-- **For a reference the calls give the use of its name, and nothing else.** -/
theorem pointed_eq (r : String) : pointed task r = (fun use => [.use use]) <$> task.use r := by
  funext s
  show (pointed task r).run.run s = ((fun use => [Sketch.use use]) <$> task.use r : Compile _).run.run s
  rw [map_eq_pure_bind, run_bind, task.use_eq]
  cases hr : s.names.nameOf? r with
  | some name =>
    rw [run_followStep_named hr]
    simp only [pointed, run_bind, run_get, hr]
    show (match s.names.nameOf? r with
      | some name => do
        let use ← markedUse name (s.following.contains r)
        return [.use use]
      | none => return [] : Compile (List (Sketch Use))).run.run s = _
    simp only [hr]
    rw [run_bind, run_markedUse]
  | none =>
    cases hn : task.document.resolve? r with
    | none =>
      rw [run_followStep_dangling hr hn]
      simp only [pointed, run_bind, run_get, hr, hn]
      rfl
    | some n =>
      rw [run_followStep_found hr hn, run_declareWith_call hr]
      simp only [pointed, run_bind, run_get, hr, hn]
      rw [run_compile_unnamed hr]
      rcases hcall : (compileWith task.options task.use n false (some r)
        (some ⟨s.names.nextName r s.style, true⟩)).run.run (s.naming r s.style) with ⟨e | given, u⟩
      · rfl
      · -- the call gives nothing, and the second look-up finds the name that it made
        obtain ⟨rfl, hname⟩ := ends_compile_unnamed hr hcall
        simp only [hname]
        rw [run_bind, run_markedUse]
        rfl

theorem traverse_base (n : Node) :
    (fun b => [b]) <$> Sketch.traverse task.use (base task.options.metadata n) = dispatched task n := by
  rw [base.eq_def]
  unfold dispatched
  cases hk : n.kind with
  | some kind =>
    cases n.reference <;> simp only <;> cases constantValidator? n.toAttributes kind <;>
      simp [Sketch.traverse, traverse_kindBase]
  | none =>
    cases n.reference with
    | some r => simp [Sketch.traverse, pointed_eq]
    | none =>
      simp only
      split <;> simp [Sketch.traverse, Sketch.traverseList, traverse_members]

theorem traverseList_after (metadata : Bool) (a : Attributes) :
    Sketch.traverseList task.use ((if metadata then metadataActions a else [])
        ++ (if a.accessScope = some .read then [.closed (Action.readonly.apply [])] else []))
      = pure ((if metadata then fillAll (metadataActions a) [] else [])
        ++ (if a.accessScope = some .read then [.closed (Action.readonly.apply [])] else [])) := by
  have description : Sketch.traverseList task.use (metadataActions a) = pure (fillAll (metadataActions a) []) := by
    unfold metadataActions
    split <;> simp [Sketch.traverseList, Sketch.traverse, fillAll, fill]
  rw [Sketch.traverseList_eq_mapM] at description
  rw [Sketch.traverseList_eq_mapM, List.mapM_append]
  split <;> split <;> simp [description, Sketch.traverse]

/-- **Going through the outline of a node is making the calls for it**, and refining what they give. -/
theorem traverseList_outline (n : Node) (optional : Bool) :
    Sketch.traverseList task.use (outline task.options.metadata n optional)
      = refined task.options.metadata optional n.settled.toAttributes <$> dispatched task n.settled := by
  have parts := traverseList_after task task.options.metadata n.settled.toAttributes
  rw [outline, ← traverse_base]
  simp only [finish, refined, List.cons_append, Functor.map_map]
  cases n.settled.default with
  | some v => simp [Sketch.traverseList, Sketch.traverse, Sketch.traverse_pipe, parts]
  | none =>
    cases optional with
    | true => simp [Sketch.traverseList, Sketch.traverse, Sketch.traverse_pipe, parts]
    | false => simp [Sketch.traverseList, parts]

end Nodes

end Typeforge.Validator
