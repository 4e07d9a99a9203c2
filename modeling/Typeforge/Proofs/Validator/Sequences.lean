import Typeforge.Proofs.Validator.Calls

/-!
# No sequence is empty by chance

A call of the compiler gives an empty sequence to say that it has declared the node. What `pipe` makes of an empty
sequence accepts every value, so nowhere else may a sequence be empty.

* `gives_dispatched`: a node has one validator before its refinements, by the cases of its kind;
* `ends_compile_ok`: a call writes what it finds, and gives it unless the name is new;
* `compile_writes`: so it gives nothing just if it has declared the node, and what it writes accepts every value just
  if the node says nothing (`Bare`). The calls within a call write, too (`InnerCalls`).
-/

namespace Typeforge.Validator

open Code Schema Naming Sketch

/-! ### The validator that accepts everything -/

section Unknown

variable {args : List Expr} {e : Expr} {es : List Expr}

theorem maker_eq_unknown_iff {m : Maker} : m.apply args = unknown ↔ m = .unknown ∧ args = [] := by
  have names : m.name = Maker.unknown.name ↔ m = .unknown := by cases m <;> decide
  simp [unknown, Maker.apply, apply, names]

theorem action_ne_unknown (a : Action) : a.apply args ≠ unknown := by
  have names : a.name ≠ Maker.unknown.name := by cases a <;> decide
  simp [unknown, Maker.apply, Action.apply, apply, names]

theorem pipe_eq_unknown_iff : pipe (e :: es) = unknown ↔ es = [] ∧ e = unknown := by
  cases es with
  | nil => simp [pipe]
  | cons e' es => simp [pipe, action_ne_unknown]

theorem use_ne_unknown (u : Use) : u.toExpr ≠ unknown := by
  unfold Use.toExpr
  split
  · simp [maker_eq_unknown_iff]
  · exact nofun

theorem toExpr_pipe {ρ : Type} (use : ρ → Expr) (ss : List (Sketch ρ)) :
    (Sketch.pipe ss).toExpr use = pipe (toExprs use ss) := by
  match ss with
  | [] => rfl
  | [_] => rfl
  | _ :: _ :: _ => rfl

variable {a : Attributes}

theorem numberValidator_ne_unknown (whole : Bool) : numberValidator a whole ≠ unknown := by
  unfold numberValidator numberBase
  split
  · simp [pipe_eq_unknown_iff]
  · split <;> simp [pipe_eq_unknown_iff, maker_eq_unknown_iff]

/-- Whether it is a number by its format or not, a text says that it is one. -/
theorem textValidator_ne_unknown :
    (if isWide a.format then numberValidator a true else stringValidator a) ≠ unknown := by
  split
  · exact numberValidator_ne_unknown true
  · simp [stringValidator, pipe_eq_unknown_iff, maker_eq_unknown_iff]

theorem enumerationValidator_eq_unknown_iff {members : List Attributes} :
    enumerationValidator members = unknown ↔ ∀ m ∈ members, memberText? m = none := by
  rw [← List.filterMap_eq_nil_iff]
  unfold enumerationValidator
  cases members.filterMap memberText? with
  | nil => simp
  | cons text texts =>
    simp only [reduceCtorEq, iff_false]
    split <;> simp [maker_eq_unknown_iff]

theorem constantValidator_ne_unknown {kind : Kind} (h : constantValidator? a kind = some e) : e ≠ unknown := by
  unfold constantValidator? at h
  split at h
  case h_6 => split at h <;> cases h <;> simp [literalValidator, maker_eq_unknown_iff]
  all_goals cases h
  all_goals simp [literalValidator, maker_eq_unknown_iff]

end Unknown

/-! ### What a node says -/

/-- The node says nothing of the values. -/
def SaysNothing (n : Node) : Prop :=
  match n.kind with
  | some .unknown => True
  | some .tuple => n.items = none ∧ ∀ vs, n.const ≠ some (.array vs)
  | some .enumeration => ∀ m ∈ n.itemList, memberText? m.toAttributes = none
  | some _ => False
  | none => n.reference = none ∧ n.isComposition = false

/-- The node says nothing of the values, and nothing comes after its validator. -/
@[mk_iff] structure Bare (metadata optional : Bool) (n : Node) : Prop where
  values : SaysNothing n
  default : n.default = none
  required : optional = false
  scope : n.accessScope ≠ some .read
  description : metadata = true → n.description = none

section Base

variable (task : Task) {n : Node}

theorem constantValidator_tuple_iff {a : Attributes} :
    constantValidator? a .tuple = none ↔ ∀ vs, a.const ≠ some (.array vs) := by
  unfold constantValidator?
  rcases a.const with _ | v
  · simp
  · cases v <;> simp

/-- A constant says something of the values, if the kind has use for it. -/
theorem constantValidator_of_saysNothing {kind : Kind} (hk : n.kind = some kind) (h : SaysNothing n) :
    constantValidator? n.toAttributes kind = none := by
  rw [SaysNothing, hk] at h
  cases kind with
  | tuple => exact constantValidator_tuple_iff.2 h.2
  | enumeration | unknown =>
    unfold constantValidator?
    split <;> simp_all
  | array | boolean | integer | never | null | number | object | string | undefined | void => exact h.elim

theorem gives_kinded {kind : Kind} (hk : n.kind = some kind)
    (hconst : constantValidator? n.toAttributes kind = none) :
    Gives (fun b => b.toExpr Use.toExpr = unknown ↔ SaysNothing n) (kinded task n kind) := by
  cases kind with
  | array =>
    refine (Gives.any _).bind fun e _ => .pure ?_
    simp [SaysNothing, hk, toExpr_pipe, toExprs, toExpr, pipe_eq_unknown_iff, maker_eq_unknown_iff]
  | object =>
    rw [kinded]
    split
    · split
      · refine (Gives.any _).bind fun e _ => .pure ?_
        simp [SaysNothing, hk, toExpr, maker_eq_unknown_iff]
      · refine .pure ?_
        simp [SaysNothing, hk, toExpr, maker_eq_unknown_iff]
    · refine (Gives.any _).bind fun e _ => .pure ?_
      simp [SaysNothing, hk, toExpr, maker_eq_unknown_iff]
  | tuple =>
    rw [kinded]
    cases hitems : n.items with
    | none =>
      refine .pure ?_
      simpa [SaysNothing, hk, hitems, toExpr] using constantValidator_tuple_iff.1 hconst
    | some items =>
      refine (Gives.any _).bind fun e _ => .pure ?_
      simp [SaysNothing, hk, hitems, toExpr, maker_eq_unknown_iff]
  | boolean | enumeration | integer | number | never | null | string | undefined | unknown | void =>
    rw [kinded, kindBase.eq_def]
    · refine .pure ?_
      simp [SaysNothing, hk, fill, toExpr, maker_eq_unknown_iff, numberValidator_ne_unknown,
        enumerationValidator_eq_unknown_iff, textValidator_ne_unknown]
    all_goals rintro ⟨⟩

/-- **A node gives one validator before its refinements**, and this accepts every value just if the node says nothing
of the values. -/
theorem gives_dispatched (n : Node) :
    Gives (fun parts => ∃ b, parts = [b] ∧ (b.toExpr Use.toExpr = unknown ↔ SaysNothing n)) (dispatched task n) := by
  unfold dispatched
  split
  · rename_i r hr hk
    rw [pointed_eq]
    refine (Gives.any _).map fun use _ => ⟨_, rfl, ?_⟩
    simp [SaysNothing, hk, hr, toExpr, use_ne_unknown]
  · rename_i kind hk
    split
    · rename_i e hconst
      refine .pure ⟨_, rfl, iff_of_false (constantValidator_ne_unknown hconst) fun h => ?_⟩
      rw [constantValidator_of_saysNothing hk h] at hconst
      cases hconst
    · rename_i hconst
      exact (gives_kinded task hk hconst).bind fun b hb => .pure ⟨b, rfl, hb⟩
  · rename_i hr hk
    split
    · rename_i hcomposition
      refine (Gives.any _).bind fun es _ => .pure ⟨_, rfl, ?_⟩
      simp only [SaysNothing, hk, hr, hcomposition, toExpr, maker_eq_unknown_iff]
      split <;> simp
    · rename_i hplain
      exact .pure ⟨_, rfl, iff_of_true rfl (by simpa [SaysNothing, hk, hr] using hplain)⟩

theorem refined_eq_nil_iff {metadata optional : Bool} {a : Attributes} {parts : List (Sketch Use)} :
    refined metadata optional a parts = [] ↔ parts = [] := by
  cases parts with
  | nil => simp [refined]
  | cons first rest =>
    simp only [refined]
    split
    · simp
    · split <;> simp

theorem refined_eq_unknown_iff {metadata optional : Bool} {b : Sketch Use}
    (hb : b.toExpr Use.toExpr = unknown ↔ SaysNothing n) :
    (Sketch.pipe (refined metadata optional n.toAttributes [b])).toExpr Use.toExpr = unknown ↔
      Bare metadata optional n := by
  -- what is wrapped says that it may be left out
  have wrapped (args : List (Sketch Use)) :
      (Sketch.pipe [.make .optional args]).toExpr Use.toExpr ≠ unknown := by
    simp [toExpr_pipe, toExprs, toExpr, pipe_eq_unknown_iff, maker_eq_unknown_iff]
  have description : (if metadata then fillAll (metadataActions n.toAttributes) [] else ([] : List (Sketch Use))) = []
      ↔ (metadata = true → n.description = none) := by
    unfold metadataActions
    cases metadata <;> cases n.description <;> simp [fillAll, fill]
  have scope : (if n.accessScope = some .read then [.closed (Action.readonly.apply [])] else ([] : List (Sketch Use)))
      = [] ↔ n.accessScope ≠ some .read := by
    split <;> simp [*]
  have empty (ss : List (Sketch Use)) : toExprs Use.toExpr ss = [] ↔ ss = [] := by
    cases ss <;> simp [toExprs]
  simp only [refined, List.cons_append, List.nil_append]
  cases hdefault : n.default with
  | some v => exact iff_of_false (wrapped _) fun h => by simpa [hdefault] using h.default
  | none =>
    cases optional with
    | true => exact iff_of_false (wrapped _) fun h => by simpa using h.required
    | false =>
      simp only [Bool.false_eq_true, if_false]
      rw [toExpr_pipe, toExprs, pipe_eq_unknown_iff, empty, List.append_eq_nil_iff, description, scope, hb, bare_iff]
      tauto

end Base

/-! ### A call -/

section Call

variable {task : Task} {n : Node} {optional : Bool} {r name : String} {reference : Option String}
  {answer : Option (Option Assigned)} {parts : List (Sketch Use)} {s t : Session}

/-- The name that a call makes for what it compiles, or that it is told as a new one. -/
def mintedName? (s : Session) : Option String → Option (Option Assigned) → Option String
  | some r, none => if s.names.nameOf? r = none then some (s.names.nextName r s.style) else none
  | _, answer => newName? answer.join

/-- The session in which the name of the reference is asked for, unless the answer was told. -/
def Session.answering (s : Session) : Option String → Option (Option Assigned) → Session
  | some r, none => { s with names := (s.names.assign r s.style).2 }
  | _, _ => s

theorem answering_unnamed (hr : s.names.nameOf? r = none) : s.answering (some r) none = s.naming r s.style := by
  rw [Session.answering, Table.assign_unnamed hr]
  rfl

theorem newName?_assign : newName? (some (s.names.assign r s.style).1) = mintedName? s (some r) none := by
  cases hr : s.names.nameOf? r with
  | none => simp [mintedName?, hr, Table.assign_unnamed hr, newName?]
  | some name => simp [mintedName?, hr, Table.assign_named hr, newName?]

theorem kept_answering (s : Session) (reference : Option String) (answer : Option (Option Assigned)) :
    Kept s (s.answering reference answer) := by
  unfold Session.answering
  split
  · rename_i r
    exact keeps_assignName r s.style s _ _ rfl
  · exact Kept.refl s

theorem run_compile (task : Task) (n : Node) (optional : Bool) (reference : Option String)
    (answer : Option (Option Assigned)) (s : Session) :
    ∃ assigned, newName? assigned = mintedName? s reference answer ∧
      (compile task n optional reference answer).run.run s =
        (compileWith task.options task.use n optional reference assigned).run.run (s.answering reference answer) := by
  unfold compile
  split
  · rename_i r
    exact ⟨some (s.names.assign r s.style).1, newName?_assign, rfl⟩
  · rename_i hnot
    refine ⟨answer.join, ?_, ?_⟩
    · unfold mintedName?
      split
      · exact (hnot _ rfl rfl).elim
      · rfl
    · unfold Session.answering
      split
      · exact (hnot _ rfl rfl).elim
      · rfl

/-- A call writes validators. It gives them, unless the name is new: then it declares them and gives nothing. -/
theorem ends_compile_ok (h : Ends (compile task n optional reference answer) s (.ok parts) t) :
    ∃ written u,
      Ends (following reference (Sketch.traverseList task.use (outline task.options.metadata n optional)))
        (s.answering reference answer) (.ok written) u ∧
      ((mintedName? s reference answer = none ∧ parts = written ∧ t = u) ∨
        ∃ name comment, mintedName? s reference answer = some name ∧ parts = [] ∧
          t = u.declaring ⟨name, comment, u.postponed, .pipe written⟩) := by
  obtain ⟨assigned, hname, hrun⟩ := run_compile task n optional reference answer s
  rw [← hname]
  exact ends_compileWith_ok (hrun.symm.trans h)

/-- What a call has written: these validators are given, or they are declared. -/
structure CallResult (task : Task) (n : Node) (optional : Bool) (reference : Option String)
    (answer : Option (Option Assigned)) (s : Session) (parts : List (Sketch Use)) (t : Session)
    (written : List (Sketch Use)) : Prop where
  nonempty : written ≠ []
  /-- Taken as one, they accept every value just if the node says nothing. -/
  accepts_iff : (Sketch.pipe written).toExpr Use.toExpr = unknown ↔ Bare task.options.metadata optional n.settled
  /-- Nothing is given just if the call made the name, or was told that it is new. -/
  empty_iff : parts = [] ↔ (mintedName? s reference answer).isSome
  given : mintedName? s reference answer = none → parts = written
  declared : ∀ name, mintedName? s reference answer = some name → ∃ before comment annotated,
    s.declarations <+: before ∧ t.declarations = before ++ [⟨name, comment, annotated, .pipe written⟩]
  /-- A name that the call made was not there before. -/
  named : ∀ r name, reference = some r → answer = none → mintedName? s reference answer = some name →
    s.names.nameOf? r = none ∧ t.names.nameOf? r = some name

/-- What the calls within a call give. -/
structure InnerCalls (task : Task) : Prop where
  /-- What is written for a node, is what these calls give with what comes after it. -/
  outline : ∀ n optional, Sketch.traverseList task.use (outline task.options.metadata n optional) =
    refined task.options.metadata optional n.settled.toAttributes <$> dispatched task n.settled
  dispatched : ∀ n s given t, Ends (dispatched task n) s (.ok given) t → ∃ b, given = [b]
  /-- For a reference there is the use of its name. -/
  pointed : ∀ r s given t, Ends (pointed task r) s (.ok given) t →
    ∃ name, given = [.use ⟨name, s.following.contains r⟩] ∧ t.names.nameOf? r = some name
  /-- The element of an array, an item, a property or a value of a record is never made of nothing. -/
  part : ∀ n optional s e t, Ends (part task n optional) s (.ok e) t →
    ∃ first rest, Ends (compile task n optional none) s (.ok (first :: rest)) t ∧ e = .pipe (first :: rest)

theorem gives_following {α : Type} {P : α → Prop} {steps : Compile α} (h : Gives P steps)
    (reference : Option String) : Gives P (following reference steps) := by
  cases reference with
  | none => exact h
  | some r =>
    intro s a t hends
    unfold Ends at hends
    rw [run_following] at hends
    exact h _ _ _ (Prod.ext (Prod.mk.inj hends).1 rfl)

/-- Going through the outline of a node writes something, which accepts every value just if the node says nothing. -/
theorem gives_outline (task : Task) (n : Node) (optional : Bool) :
    Gives (fun written => written ≠ [] ∧
        ((Sketch.pipe written).toExpr Use.toExpr = unknown ↔ Bare task.options.metadata optional n.settled))
      (Sketch.traverseList task.use (outline task.options.metadata n optional)) := by
  rw [traverseList_outline]
  refine (gives_dispatched task n.settled).map fun given hgiven => ?_
  obtain ⟨b, rfl, hb⟩ := hgiven
  exact ⟨mt refined_eq_nil_iff.1 (by simp), refined_eq_unknown_iff hb⟩

theorem mintedName?_eq_some {name : String} (h : mintedName? s (some r) none = some name) :
    s.names.nameOf? r = none ∧ name = s.names.nextName r s.style := by
  unfold mintedName? at h
  simp only at h
  split at h
  · rename_i hr
    exact ⟨hr, (Option.some.inj h).symm⟩
  · cases h

theorem exists_callResult (h : Ends (compile task n optional reference answer) s (.ok parts) t) :
    ∃ written, CallResult task n optional reference answer s parts t written := by
  obtain ⟨written, u, hu, hend⟩ := ends_compile_ok h
  obtain ⟨hne, haccepts⟩ := gives_following (gives_outline task n optional) reference _ _ _ hu
  have hkept : Kept (s.answering reference answer) u :=
    keeps_following (keeps_traverseList (keeps_follow_kept _) _) reference _ _ _ hu
  rcases hend with ⟨hold, rfl, rfl⟩ | ⟨name, comment, hnew, rfl, rfl⟩
  · have never {name : String} (hname : mintedName? s reference answer = some name) : False := by
      simp [hold] at hname
    exact ⟨parts, {
      nonempty := hne
      accepts_iff := haccepts
      empty_iff := by simp [hold, hne]
      given := fun _ => rfl
      declared := fun _ hname => (never hname).elim
      named := fun _ _ _ _ hname => (never hname).elim }⟩
  · exact ⟨written, {
      nonempty := hne
      accepts_iff := haccepts
      empty_iff := by simp [hnew]
      given := fun hold => by simp [hnew] at hold
      declared := by
        intro name' hname
        obtain rfl : name = name' := Option.some.inj (hnew.symm.trans hname)
        exact ⟨u.declarations, comment, u.postponed, (kept_answering s _ _).declarations.trans hkept.declarations, rfl⟩
      named := by
        rintro r name' rfl rfl hname
        obtain ⟨hr, rfl⟩ := mintedName?_eq_some hname
        exact ⟨hr, hkept.nameOf? (answering_unnamed hr ▸ Session.nameOf?_naming hr)⟩ }⟩

theorem ends_use {use : Use} (h : Ends (task.use r) s (.ok use) t) :
    ∃ name, use = ⟨name, s.following.contains r⟩ ∧ t.names.nameOf? r = some name := by
  have inside (n : Node) : Keeps Kept ((holesIn task.options n).mapM task.use) :=
    Keeps.mapM Kept.refl Kept.trans fun r _ => keeps_follow_kept _ r
  rw [task.use_eq] at h
  cases followResult_of_ends h with
  | named hr => exact ⟨_, rfl, by simpa using hr⟩
  | found hr hn hdeclare =>
    refine ⟨_, rfl, ?_⟩
    cases declareResult_of_ends hdeclare with
    | named hr' => simpa using hr'
    | declared hr' hu =>
      have hnamed := (inside _ _ _ _ hu).nameOf? ((Session.entering_names _ _).symm ▸ Session.nameOf?_naming hr')
      simpa using hnamed

theorem innerCalls (task : Task) : InnerCalls task where
  outline := traverseList_outline task
  dispatched n s given t h := by
    obtain ⟨b, hgiven, -⟩ := gives_dispatched task n _ _ _ h
    exact ⟨b, hgiven⟩
  pointed r s given t h := by
    rw [pointed_eq, map_eq_pure_bind] at h
    obtain ⟨use, u, hu, h⟩ := ends_bind_ok.1 h
    obtain ⟨hgiven, rfl⟩ := ends_pure.1 h
    obtain ⟨name, rfl, hname⟩ := ends_use hu
    exact ⟨name, Except.ok.inj hgiven, hname⟩
  part n optional s e t h := by
    rw [part, map_eq_pure_bind] at h
    obtain ⟨given, u, hu, h⟩ := ends_bind_ok.1 h
    obtain ⟨he, rfl⟩ := ends_pure.1 h
    obtain ⟨written, hcall⟩ := exists_callResult hu
    obtain rfl := hcall.given rfl
    obtain ⟨first, rest, rfl⟩ := List.exists_cons_of_ne_nil hcall.nonempty
    exact ⟨first, rest, hu, Except.ok.inj he⟩

/-- **A call gives nothing just if it has declared the node.** It writes a validator in any case, the calls in it do,
too, and a reference adds one use. -/
theorem compile_writes (h : Ends (compile task n optional reference answer) s (.ok parts) t) :
    (∃ written, CallResult task n optional reference answer s parts t written) ∧ InnerCalls task :=
  ⟨exists_callResult h, innerCalls task⟩

/-- A tuple of a pet and of anything. -/
def petAndAnything : Node where
  kind := some .tuple
  items := some [{ reference := some "#/components/schemas/Pet" }, { kind := some .unknown }]

/-- The pet has its name already. -/
def withPet : Session where
  names := [("#/components/schemas/Pet", "vPet")]
  style := ⟨.camel, .template "v\x7b\x7bname\x7d\x7d"⟩

theorem outline_petAndAnything : outline false petAndAnything false =
    [.make .tuple [.list [.use "#/components/schemas/Pet", .closed unknown]]] := by
  have hsettled : petAndAnything.settled = petAndAnything := by rfl
  have hanything : outline false { kind := some .unknown } false = [.closed unknown] := by
    have hsettled : ({ kind := some .unknown } : Node).settled = { kind := some .unknown } := by rfl
    rw [outline, hsettled]
    simp [finish, base, constantValidator?, kindBase]
  rw [outline, hsettled, petAndAnything]
  simp [finish, base, constantValidator?, kindBase, tupleBase, Node.itemList, members, outline_reference, hanything,
    Sketch.pipe]

/-- The call for the tuple gives it a name and declares it. -/
theorem petAndAnything_writes : ∃ t,
    Ends (compile ⟨{}, {}⟩ petAndAnything false (some "#/components/schemas/Pair")) withPet (.ok []) t ∧
    (∃ written, CallResult ⟨{}, {}⟩ petAndAnything false (some "#/components/schemas/Pair") none withPet [] t written) ∧
    InnerCalls ⟨{}, {}⟩ := by
  have given : ((compile ⟨{}, {}⟩ petAndAnything false (some "#/components/schemas/Pair")).run.run withPet).1
      = .ok [] := by
    rw [run_compile_unnamed rfl, compileWith, outline_petAndAnything]
    rfl
  generalize hrun : (compile ⟨{}, {}⟩ petAndAnything false (some "#/components/schemas/Pair")).run.run withPet = run
    at given
  obtain ⟨result, t⟩ := run
  obtain rfl : result = .ok [] := given
  exact ⟨t, hrun, compile_writes hrun⟩

end Call

end Typeforge.Validator
