import Typeforge.Proofs.Schema.Decoding
import Typeforge.Proofs.Schema.Lifts
import Typeforge.Proofs.Validator.Frame
import Typeforge.Proofs.Validator.Outline

/-!
# Unions and intersections

A composition is collapsed before its validator is written, so that a union or an intersection always joins several
members (`Collapses`).

* `ends_compile`: what compiling a node gives and declares are outlines with their holes filled;
* `decode_collapses`: what the rounds make of a composition that is decoded, and that compiling the one is compiling
  the other.
-/

namespace Typeforge.Validator

open Code Naming Schema Sketch

/-! ### What is given and declared -/

/-- The sketch is the outline of some node with its holes filled. -/
def IsOutline (options : Options) (s : Sketch Use) : Prop :=
  ∃ n optional uses, s = .pipe (fillAll (outline options.metadata n optional) uses)

theorem IsOutline.joined {options : Options} {s : Sketch Use} (h : IsOutline options s) : s.Joined := by
  obtain ⟨n, optional, uses, rfl⟩ := h
  exact (filled_meets options.metadata n optional uses).joined

/-- From `s` to `t` only outlines of nodes were declared. -/
def AddsOutlines (options : Options) (s t : Session) : Prop :=
  ∀ d ∈ t.declarations, d ∈ s.declarations ∨ IsOutline options d.validator

section Compile

variable {options : Options} {task : Task} {inner : String → Compile Use} {r : String} {n : Node} {optional : Bool}
  {style : Style} {s t u : Session}

theorem AddsOutlines.refl (s : Session) : AddsOutlines options s s := fun _ hd => .inl hd

theorem AddsOutlines.trans (s t u : Session) (h : AddsOutlines options s t) (h' : AddsOutlines options t u) :
    AddsOutlines options s u :=
  fun d hd => (h' d hd).elim (h d) .inr

/-- The relation looks at nothing but the declarations. -/
theorem AddsOutlines.congr {s' t' : Session} (h : AddsOutlines options s t) (hs : s'.declarations = s.declarations)
    (ht : t'.declarations = t.declarations) : AddsOutlines options s' t' := by
  unfold AddsOutlines
  rwa [hs, ht]

theorem AddsOutlines.declaring (h : AddsOutlines options s t) {d : Declaration} (hd : IsOutline options d.validator) :
    AddsOutlines options s (t.declaring d) := by
  intro c hc
  rcases List.mem_append.1 hc with hc | hc
  · exact h c hc
  · rw [List.mem_singleton.1 hc]
    exact .inr hd

theorem keeps_declareWith_outlines (hinner : ∀ r, Keeps (AddsOutlines options) (inner r)) :
    Keeps (AddsOutlines options) (declareWith options inner r n style) := by
  intro s res t h
  have inside : Keeps (AddsOutlines options) ((holesIn options n).mapM inner) :=
    Keeps.mapM .refl .trans fun r _ => hinner r
  cases declareResult_of_ends h with
  | named => exact .refl s
  | declared hr hu => exact ((inside _ _ _ hu).congr (by simp) (by simp)).declaring ⟨n, false, _, rfl⟩
  | failed hr hu => exact (inside _ _ _ hu).congr (by simp) (by simp)

theorem keeps_follow_outlines (budget : Nat) (r : String) :
    Keeps (AddsOutlines task.options) (follow task budget r) := by
  induction budget generalizing r with
  | zero =>
    intro s res t h
    rw [(ends_throw.1 h).2]
    exact .refl s
  | succ budget ih =>
    intro s res t h
    cases followResult_of_ends h with
    | named => exact (AddsOutlines.refl s).congr rfl (by simp)
    | found hr hn hu => exact (keeps_declareWith_outlines ih _ _ _ hu).congr rfl (by simp)
    | failed hr hn hu => exact keeps_declareWith_outlines ih _ _ _ hu
    | dangling => exact .refl s

/-- Steps with a reference among those being followed see and leave the declarations that they do alone. -/
theorem ends_following {α : Type} {steps : Compile α} {reference : Option String} {res : Except Failure α}
    (h : Ends (following reference steps) s res t) :
    ∃ s' t', Ends steps s' res t' ∧ s.declarations = s'.declarations ∧ t.declarations = t'.declarations := by
  cases reference with
  | none => exact ⟨s, t, h, rfl, rfl⟩
  | some r =>
    unfold Ends at h
    rw [run_following] at h
    cases h
    exact ⟨s.entering r, (steps.run.run (s.entering r)).2, rfl, by simp, s.leaving_declarations r _⟩

theorem ends_traverse (hinner : ∀ r, Keeps (AddsOutlines options) (inner r)) {sketches : List (Sketch String)}
    {res : Except Failure (List (Sketch Use))} (h : Ends (Sketch.traverseList inner sketches) s res t) :
    AddsOutlines options s t ∧ ∀ parts, res = .ok parts → ∃ uses, parts = fillAll sketches uses := by
  rw [Sketch.traverseList_eq] at h
  have inside : Keeps (AddsOutlines options) ((holesOf sketches).mapM inner) :=
    Keeps.mapM .refl .trans fun r _ => hinner r
  rcases ends_bind.1 h with ⟨uses, u, hu, h⟩ | ⟨e, hu, rfl⟩
  · obtain ⟨rfl, rfl⟩ := ends_pure.1 h
    refine ⟨inside _ _ _ hu, fun parts hparts => ?_⟩
    cases hparts
    exact ⟨uses, rfl⟩
  · exact ⟨inside _ _ _ hu, fun parts hparts => by cases hparts⟩

theorem ends_compileWith (hinner : ∀ r, Keeps (AddsOutlines options) (inner r)) {reference : Option String}
    {assigned : Option Assigned} {res : Except Failure (List (Sketch Use))}
    (h : Ends (compileWith options inner n optional reference assigned) s res t) :
    AddsOutlines options s t ∧ ∀ parts, res = .ok parts → parts = [] ∨ IsOutline options (.pipe parts) := by
  unfold compileWith at h
  rcases ends_bind.1 h with ⟨parts, u, hu, h⟩ | ⟨e, hu, rfl⟩
  · obtain ⟨s', u', hu, hs, ht⟩ := ends_following hu
    obtain ⟨adds, filled⟩ := ends_traverse hinner hu
    obtain ⟨uses, rfl⟩ := filled _ rfl
    have isOutline : IsOutline options (.pipe (fillAll (outline options.metadata n optional) uses)) :=
      ⟨n, optional, uses, rfl⟩
    split at h
    · rcases ends_bind.1 h with ⟨_, v, hv, h⟩ | ⟨e, hv, rfl⟩
      · obtain ⟨rfl, rfl⟩ := ends_pure.1 h
        obtain ⟨-, rfl⟩ := ends_modify.1 hv
        refine ⟨(adds.congr hs ht).declaring isOutline, fun parts hparts => ?_⟩
        cases hparts
        exact .inl rfl
      · cases (ends_modify.1 hv).1
    · obtain ⟨rfl, rfl⟩ := ends_pure.1 h
      refine ⟨adds.congr hs ht, fun parts hparts => ?_⟩
      cases hparts
      exact .inr isOutline
  · obtain ⟨s', u', hu, hs, ht⟩ := ends_following hu
    exact ⟨(ends_traverse hinner hu).1.congr hs ht, fun parts hparts => by cases hparts⟩

theorem run_asked : (some <$> (get >>= fun s : Session => assignName r s.style) : Compile (Option Assigned)).run.run s =
    (.ok (some (s.names.assign r s.style).1), { s with names := (s.names.assign r s.style).2 }) := rfl

/-- **What compiling a node gives, and what it declares, are outlines with their holes filled.** -/
theorem ends_compile {reference : Option String} {answer : Option (Option Assigned)}
    {res : Except Failure (List (Sketch Use))} (h : Ends (compile task n optional reference answer) s res t) :
    AddsOutlines task.options s t ∧ ∀ parts, res = .ok parts → parts = [] ∨ IsOutline task.options (.pipe parts) := by
  unfold compile at h
  simp only at h
  have inner (r : String) : Keeps (AddsOutlines task.options) (follow task (followBudget task.document) r) :=
    keeps_follow_outlines _ r
  split at h
  · unfold Ends at h
    rw [run_bind, run_asked] at h
    obtain ⟨adds, outlines⟩ := ends_compileWith inner h
    exact ⟨adds.congr rfl rfl, outlines⟩
  · rw [pure_bind] at h
    exact ends_compileWith inner h

end Compile

/-! ### Collapsing -/

theorem outline_settled (metadata : Bool) (n : Node) (optional : Bool) :
    outline metadata n.settled optional = outline metadata n optional := by
  rw [outline, outline, Node.settled_settled]

/-- What removing repeated items and lifting only ones makes of the composition `n`, and how the two are compiled. -/
structure Collapses (n N : Node) : Prop where
  /-- Fewer rounds than there are nodes lead from `n` to `N`. Each of them makes a composition smaller. -/
  rounds : ∃ rounds < n.size, Node.deduplicate^[rounds] n = N ∧
    ∀ before < rounds, (Node.deduplicate^[before] n).isComposition = true ∧
      (Node.deduplicate^[before + 1] n).size < (Node.deduplicate^[before] n).size
  /-- With `N` there is nothing more to be done. -/
  ends : N.isComposition = false ∨ N.deduplicate = N
  /-- The loop, which compares each round with the one before it, ends with `N`. -/
  loop : Node.roundsFrom n.size n.deduplicate = some N
  /-- Whichever of two items is compared with the other, they are not the same. -/
  items : N.isComposition = true → 2 ≤ N.itemList.length ∧
    N.itemList.Pairwise fun k m => k.same m = false ∧ m.same k = false
  /-- Each field is that of the innermost level that sets it. -/
  field : ∀ {α : Type} {get : Node → Option α}, Node.IsField get → get N = n.levels.reverse.findSome? get
  /-- The operator and the items are those of the innermost level, but for repeated items. -/
  innermost : ∃ outer innermost, n.levels = outer ++ [innermost] ∧ N.isComposition = innermost.isComposition ∧
    N.operator = innermost.operator ∧
    N.items = if innermost.isComposition then some (Node.distinct innermost.itemList) else innermost.items
  /-- In every session, and so for the file that it adds to, compiling `n` is compiling `N`. -/
  compiled : ∀ task optional reference answer,
    compile task n optional reference answer = compile task N optional reference answer
  /-- Each union and each intersection in what is given or declared has two members or more. -/
  joined : ∀ {task optional reference answer s res t}, Ends (compile task n optional reference answer) s res t →
    (∀ parts, res = .ok parts → (Sketch.pipe parts).Joined) ∧
      ∀ d ∈ t.declarations, d ∈ s.declarations ∨ d.validator.Joined

theorem compile_settled (task : Task) (n : Node) (optional : Bool) (reference : Option String)
    (answer : Option (Option Assigned)) :
    compile task n optional reference answer = compile task n.settled optional reference answer := by
  have node (assigned : Option Assigned) (follow : String → Compile Use) :
      compileWith task.options follow n optional reference assigned
        = compileWith task.options follow n.settled optional reference assigned := by
    unfold compileWith
    rw [outline_settled, Node.settled_settled]
  unfold compile
  simp only [node]

/-- **A composition that is decoded collapses** to what it is compiled as. -/
theorem decode_collapses {levels : Nat} {raw : Json.Raw} {n : Node} (h : Node.decode levels raw = some n)
    (hc : n.isComposition = true) : Collapses n n.collapse := by
  have hn : n.WellKeyed := Node.decode_wellKeyed _ _ _ h
  have loop := Node.roundsFrom_deduplicate hn hc
  rw [← Node.settled_of_isComposition hc] at loop ⊢
  refine { rounds := n.exists_rounds, ends := ?_, loop, items := ?_, field := fun hget => Node.field_settled hget n,
           innermost := n.exists_innermost, compiled := fun task => compile_settled task n, joined := ?_ }
  · cases hN : n.settled.isComposition with
    | false => exact .inl rfl
    | true => exact .inr (Node.deduplicate_settled hN)
  · exact fun hN => ⟨(Node.items_of_settled hN).1, Node.pairwise_items_of_settled hn hN⟩
  · intro task optional reference answer s res t hends
    obtain ⟨adds, outlines⟩ := ends_compile hends
    refine ⟨fun parts hparts => ?_, fun d hd => (adds d hd).imp id IsOutline.joined⟩
    rcases outlines parts hparts with rfl | houtline
    · trivial
    · exact houtline.joined

/-- One composition in another, and of the three items of the inner one two are the same. -/
def nestedRaw : Json.Raw :=
  .object [
    ("description", .string "outer"),
    ("default", .string "a"),
    ("items", .array [.object [
      ("description", .string "inner"),
      ("items", .array [
        .object [("type", .string "string")],
        .object [("type", .string "string")],
        .object [("type", .string "null")]]),
      ("logicalOperator", .string "or")]]),
    ("logicalOperator", .string "and")]

def nested : Node where
  description := some "outer"
  default := some (.string "a")
  items := some [{
    description := some "inner"
    items := some [.ofKind .string, .ofKind .string, .ofKind .null]
    operator := some .or }]
  operator := some .and

/-- The composition is the inner one, and so is its description. The default is the outer one. -/
def nestedCollapsed : Node where
  description := some "inner"
  default := some (.string "a")
  items := some [.ofKind .string, .ofKind .null]
  operator := some .or

/-- One round lifts and the next one removes. -/
theorem nested_collapses : Node.decode 8 nestedRaw = some nested ∧ nested.isComposition = true ∧
    nested.collapse = nestedCollapsed ∧ Collapses nested nestedCollapsed := by
  have hdecode : Node.decode 8 nestedRaw = some nested := by rfl
  have hcollapse : nested.collapse = nestedCollapsed := by
    rw [Node.collapse_of_size_lt (by decide), if_pos (by rfl), Node.collapse_of_size_lt (by decide), if_pos (by rfl),
      Node.collapse, dif_neg (by decide)]
    rfl
  exact ⟨hdecode, rfl, hcollapse, hcollapse ▸ decode_collapses hdecode rfl⟩

end Typeforge.Validator
