import Typeforge.Proofs.Validator.Circles
import Typeforge.Proofs.Validator.Dangling

/-!
# When the file of validators is filled

What has a name is not asked where it leads, and not only what leads somewhere is given a name: the request of an
operation and the response to it are declared under references of their own (`standIns`), which lead nowhere. A schema
may write such a reference, and is accepted if something was declared under it before. `Followable` says so of a whole
document, and a run fails just if its document is not followable (`exists_fillFile_iff`): at the first reference that
leads nowhere and has nothing declared under it so far.
-/

namespace Typeforge.Validator

open Schema Naming

/-- The references that stand for the requests of operations and for the responses to them. -/
def standIns (options : Options) (d : Document) : List String :=
  (d.operations.flatMap fun o => targetsOf options (.operation o)).map (·.reference)

/-- Compiling what is declared comes to the reference. -/
def Followed (options : Options) (d : Document) (r : String) : Prop := ∃ r₀, Refers options d r₀ r

/-- Each reference in what is declared first under its own leads somewhere, or something is declared under it no
later. -/
def Followable (options : Options) (d : Document) : Prop :=
  ∀ before x after, targets options d = before ++ x :: after → x.reference ∉ before.map (·.reference) →
    ∀ r ∈ holesIn options x.node, d.resolve? r ≠ none ∨ r ∈ (before ++ [x]).map (·.reference)

variable {options : Options} {d : Document} {x : Target} {r : String} {before after : List Target}

/-! ### What is declared first -/

section First

theorem targetOf?_split (hall : targets options d = before ++ x :: after)
    (hnew : x.reference ∉ before.map (·.reference)) : targetOf? options d x.reference = some x := by
  have hnone : before.find? (fun y => y.reference = x.reference) = none := by
    refine List.find?_eq_none.2 fun y hy heq => hnew ?_
    exact of_decide_eq_true heq ▸ List.mem_map_of_mem hy
  rw [targetOf?, hall, List.find?_append, hnone]
  simp

theorem exists_split (h : targetOf? options d r = some x) : ∃ before after,
    targets options d = before ++ x :: after ∧ x.reference ∉ before.map (·.reference) := by
  obtain ⟨hx, before, after, hall, hbefore⟩ := List.find?_eq_some_iff_append.1 h
  refine ⟨before, after, hall, fun hmem => ?_⟩
  obtain ⟨y, hy, heq⟩ := List.mem_map.1 hmem
  have hne := hbefore y hy
  rw [heq, hx] at hne
  cases hne

/-- Compiling comes to what is in the targets that are declared first. -/
theorem followed_iff : Followed options d r ↔
    ∃ x, targetOf? options d x.reference = some x ∧ r ∈ holesIn options x.node := by
  constructor
  · rintro ⟨r₀, n, hlead, hr⟩
    obtain ⟨x, hx, rfl⟩ := exists_targetOf? hlead
    exact ⟨x, hx, hr⟩
  · rintro ⟨x, hx, hr⟩
    exact ⟨x.reference, x.node, by simp [leadsTo?, hx], hr⟩

theorem Followed.of_split (hall : targets options d = before ++ x :: after)
    (hnew : x.reference ∉ before.map (·.reference)) (hr : r ∈ holesIn options x.node) : Followed options d r :=
  followed_iff.2 ⟨x, targetOf?_split hall hnew, hr⟩

theorem Followed.closed (task : Task) : Closed task (Followed task.options task.document) :=
  fun r n _ hn _ hr => ⟨r, n, leadsTo?_resolved hn, hr⟩

theorem Followed.mem_references (h : Followed options d r) : r ∈ d.references := by
  obtain ⟨x, hx, hr⟩ := followed_iff.1 h
  obtain ⟨e, he, hxe⟩ := mem_targets (targetOf?_mem hx).1
  exact target_references he hxe (outline_holes _ hr)

end First

/-! ### Components and stand-ins -/

section StandIns

theorem resolve?_standIn (h : r ∈ standIns options d) : d.resolve? r = none := by
  obtain ⟨x, hx, rfl⟩ := List.mem_map.1 h
  obtain ⟨o, -, hx⟩ := List.mem_flatMap.1 hx
  rw [Document.resolve?, target?_of_operation hx]
  rfl

/-- The reference of a component leads somewhere. -/
theorem resolve?_componentTarget (hx : x ∈ componentTargets options d.components) : d.resolve? x.reference ≠ none := by
  have component {α : Type} {m : Keyed α} {p : String × α} (hp : p ∈ m) : Keyed.get? m p.1 ≠ none :=
    Keyed.get?_ne_none_of_mem hp
  simp only [componentTargets, List.mem_append, List.mem_map] at hx
  rcases hx with (⟨p, hp, rfl⟩ | ⟨p, hp, rfl⟩) | ⟨p, hp, rfl⟩
  all_goals
    rw [Document.resolve?_toComponent]
    simpa [Components.find?] using component hp

/-- The reference of a target leads somewhere, or stands for a request or a response. -/
theorem target_reference (hx : x ∈ targets options d) :
    d.resolve? x.reference ≠ none ∨ x.reference ∈ standIns options d := by
  rw [targets_eq, List.mem_append] at hx
  exact hx.imp resolve?_componentTarget fun hx => List.mem_map_of_mem hx

theorem components_first (hall : targets options d = before ++ x :: after) (hx : d.resolve? x.reference ≠ none) :
    ∀ r ∈ (before ++ [x]).map (·.reference), d.resolve? r ≠ none := by
  have hnot : x ∉ d.operations.flatMap fun o => targetsOf options (.operation o) := fun hmem =>
    hx (resolve?_standIn (List.mem_map_of_mem hmem))
  suffices before ++ [x] ⊆ componentTargets options d.components from
    List.forall_mem_map.2 fun y hy => resolve?_componentTarget (this hy)
  rw [targets_eq] at hall
  rcases List.append_eq_append_iff.1 hall.symm with ⟨rest, hbefore, hrest⟩ | ⟨rest, hbefore, hrest⟩
  · cases rest with
    | nil =>
      rw [List.nil_append] at hrest
      exact absurd (hrest ▸ List.mem_cons_self) hnot
    | cons y rest =>
      obtain ⟨rfl, -⟩ := List.cons.inj hrest
      simp [hbefore]
  · exact absurd (by simp [hrest]) hnot

end StandIns

/-! ### Runs that end well -/

section Runs

variable {t : Session}

/-- Names are given to references that lead somewhere, and to those under which something is declared. -/
theorem named_targets
    (h : Ends (before.forM (declareTarget ⟨d, options⟩)) { style := options.definitions.toStyle } (.ok ()) t)
    (hr : r ∈ Keyed.keys t.names) : d.resolve? r ≠ none ∨ r ∈ before.map (·.reference) := by
  have keeps : Keeps (Grows fun r => d.resolve? r ≠ none ∨ r ∈ before.map (·.reference))
      (before.forM (declareTarget ⟨d, options⟩)) := by
    refine Keeps.forM Grows.refl Grows.trans fun x hx => ?_
    exact keeps_declareTarget (.inr (List.mem_map_of_mem hx)) fun r _ => keeps_follow_resolved (fun _ => .inl) _ r
  obtain ⟨names, declarations, hgrowth⟩ := keeps _ _ _ h
  refine hgrowth.allowed r ?_
  rw [hgrowth.names] at hr
  exact hr

/-- Where a run ends well, each target that is declared first has only references that were all right then. -/
theorem followable_of_ends
    (h : Ends (declareAll ⟨d, options⟩) { style := options.definitions.toStyle } (.ok ()) t) :
    Followable options d := by
  intro before x after hall hnew r hr
  have hall' : targets options d = (before ++ [x]) ++ after := by simp [hall]
  rw [declareAll_eq] at h
  simp only [hall'] at h
  obtain ⟨u, hu, -⟩ := ends_forM_append_ok h
  obtain ⟨-, hanswered, hnamed⟩ := answered_targets hall' hu
  -- after `x` is declared, all references in what is declared first under its reference have names
  obtain ⟨-, n, hlead, hholes⟩ := hanswered x.reference (hnamed x (by simp))
  rw [leadsTo?, targetOf?_split hall hnew] at hlead
  cases hlead
  have hkeys : r ∈ Keyed.keys u.names := hholes hr
  exact named_targets hu hkeys

end Runs

/-! ### Runs that fail -/

section Failures

variable {id : String} {e : Failure}

theorem nameOf?_of_error {task : Task} {s t : Session}
    (h : Ends (follow task (followBudget task.document) r) s (.error e) t) : s.names.nameOf? r = none := by
  rw [← followStep_follow] at h
  cases followResult_of_ends h with
  | failed hr => exact hr
  | dangling hr => exact hr

/-- **Where a run fails**: following a reference under which nothing has been declared so far. -/
theorem exists_failing (h : fillFile options d { id } = .error e) :
    ∃ before x after, targets options d = before ++ x :: after ∧ x.reference ∉ before.map (·.reference) ∧
      ∃ r ∈ holesIn options x.node, r ∉ (before ++ [x]).map (·.reference) ∧
        ∃ s t, Ends (follow ⟨d, options⟩ (followBudget d) r) s (.error e) t := by
  rcases fillFile_cases options d { id } with ⟨s, -, hok⟩ | ⟨e', t, hends, herror⟩
  · rw [hok] at h
    cases h
  rw [herror] at h
  cases h
  rw [declareAll_eq] at hends
  obtain ⟨before, x, after, s, hall, hbefore, hx⟩ := ends_forM_error hends
  obtain ⟨-, -, hnamed⟩ := answered_targets hall hbefore
  obtain ⟨declared, u, hu, hresult, -⟩ := ends_declareTarget hx
  cases declared with
  | ok => cases hresult
  | error e' =>
    cases hresult
    cases declareResult_of_ends hu with
    | @failed _ v hr hholes =>
      obtain ⟨holes, r, holes', uses, w, hsplit, hran, hfail⟩ := ends_mapM_error hholes
      refine ⟨before, x, after, hall, fun hmem => ?_, r, by simp [hsplit], fun hmem => ?_, w, v, hfail⟩
      · obtain ⟨y, hy, heq⟩ := List.mem_map.1 hmem
        exact Table.nameOf?_eq_none_iff.1 hr (heq ▸ hnamed y hy)
      · -- the names that were there when the first hole was followed are there still
        have grows : Keeps (Grows fun _ => True) (holes.mapM (follow ⟨d, options⟩ (followBudget d))) :=
          Keeps.mapM Grows.refl Grows.trans fun r _ => keeps_follow_all _ r
        have hnone := (grows _ _ _ hran).nameOf?_eq_none (nameOf?_of_error hfail)
        rw [Table.nameOf?_eq_none_iff, Session.keys_entered] at hnone
        obtain ⟨y, hy, rfl⟩ := List.mem_map.1 hmem
        rcases List.mem_append.1 hy with hy | hy
        · exact hnone (List.mem_append_left _ (hnamed y hy))
        · exact hnone (by simp [List.mem_singleton.1 hy])

/-- **A run fails at a reference that is followed and leads nowhere.** -/
theorem fillFile_dangling (h : fillFile options d { id } = .error e) :
    ∃ r, Followed options d r ∧ d.resolve? r = none ∧ e = .danglingReference r := by
  obtain ⟨before, x, after, hall, hnew, r, hr, -, s, t, hfail⟩ := exists_failing h
  have fails : Fails (fun e => ∃ r, Followed options d r ∧ d.resolve? r = none ∧ e = .danglingReference r)
      (follow ⟨d, options⟩ (followBudget d) r) :=
    fails_follow (Followed.closed _) (fun r hr hnone => ⟨r, hr, hnone, rfl⟩) (.of_split hall hnew hr)
  exact fails _ _ _ hfail

theorem Followable.closed (h : Followable options d) : Closed ⟨d, options⟩ fun r => d.resolve? r ≠ none := by
  intro r n _ hn r' hr'
  obtain ⟨x, hx, rfl, hleads⟩ := exists_targetOf?_resolved options hn
  obtain ⟨before, after, hall, hnew⟩ := exists_split hx
  rcases h before x after hall hnew r' hr' with hleads' | hmem
  · exact hleads'
  · -- `x` is a component, so whatever is declared no later is one too
    exact components_first hall (by simp [hleads]) r' hmem

/-- **The file of validators is filled just if its document is followable.** -/
theorem exists_fillFile_iff : (∃ file, fillFile options d { id } = .ok file) ↔ Followable options d := by
  constructor
  · rintro ⟨file, h⟩
    obtain ⟨s, hends, -⟩ := fillFile_ok h
    exact followable_of_ends hends
  · intro hfollowable
    cases h : fillFile options d { id } with
    | ok file => exact ⟨file, rfl⟩
    | error e =>
      obtain ⟨before, x, after, hall, hnew, r, hr, hnot, s, t, hfail⟩ := exists_failing h
      have hleads := (hfollowable before x after hall hnew r hr).resolve_right hnot
      have fails : Fails (fun _ => False) (follow ⟨d, options⟩ (followBudget d) r) :=
        fails_follow hfollowable.closed (fun _ hr hnone => hr hnone) hleads
      exact (fails _ _ _ hfail).elim

end Failures

/-! ### Operations in another order -/

section Reordering

variable {o o' : Operation} {y : Target} {operations : List Operation}

theorem id_of_reference (hx : x ∈ targetsOf options (.operation o)) (hy : y ∈ targetsOf options (.operation o'))
    (h : x.reference = y.reference) : o.id = o'.id := by
  rcases mem_targetsOf_operation hx with ⟨-, rfl⟩ | ⟨-, n, -, rfl⟩ <;>
    rcases mem_targetsOf_operation hy with ⟨-, rfl⟩ | ⟨-, n', -, rfl⟩
  · exact Operation.requestReference_inj.1 h
  · exact absurd h (o.requestReference_ne o')
  · exact absurd h.symm (o'.requestReference_ne o)
  · exact Operation.responseReference_inj.1 h

theorem exists_id (options : Options) (r : String) : ∃ i, ∀ o : Operation, o.id ≠ i →
    ∀ x ∈ targetsOf options (.operation o), x.reference ≠ r := by
  by_cases h : ∃ o, ∃ x ∈ targetsOf options (.operation o), x.reference = r
  · obtain ⟨o, x, hx, rfl⟩ := h
    exact ⟨o.id, fun o' hne y hy heq => hne (id_of_reference hy hx heq)⟩
  · exact ⟨"", fun o _ x hx heq => h ⟨o, x, hx, heq⟩⟩

theorem find?_flatMap_filter {α β : Type} {f : α → List β} {p : β → Bool} {q : α → Bool} {as : List α}
    (h : ∀ a, q a = false → ∀ b ∈ f a, p b = false) :
    (as.flatMap f).find? p = ((as.filter q).flatMap f).find? p := by
  induction as with
  | nil => rfl
  | cons a as ih =>
    rw [List.flatMap_cons, List.find?_append, ih]
    cases hq : q a with
    | true => rw [List.filter_cons_of_pos hq, List.flatMap_cons, List.find?_append]
    | false =>
      have hnone : (f a).find? p = none := List.find?_eq_none.2 fun b hb => by simp [h a hq b hb]
      rw [List.filter_cons_of_neg (by simp [hq]), hnone, Option.none_or]

/-- The operations with one identifier come in the same order. -/
def SameOrder (operations operations' : List Operation) : Prop :=
  ∀ i, operations.filter (·.id = i) = operations'.filter (·.id = i)

theorem SameOrder.mem_iff (h : SameOrder operations d.operations) : o ∈ operations ↔ o ∈ d.operations := by
  have hmem := congrArg (o ∈ ·) (h o.id)
  simpa using hmem

theorem sameOrder_of_perm (hids : (d.operations.map (·.id)).Nodup) (hperm : operations.Perm d.operations) :
    SameOrder operations d.operations := by
  intro i
  have hfilter := hperm.filter fun o => o.id = i
  have hlength : (d.operations.filter fun o => o.id = i).length ≤ 1 := by
    have hnodup := hids.sublist ((List.filter_sublist (p := fun o : Operation => o.id = i)).map _)
    have hsame : ∀ j ∈ (d.operations.filter fun o => o.id = i).map (·.id), j = i := by
      refine List.forall_mem_map.2 fun o ho => ?_
      exact of_decide_eq_true (List.mem_filter.1 ho).2
    rw [List.eq_replicate_of_mem hsame, List.nodup_replicate] at hnodup
    simpa using hnodup
  generalize d.operations.filter (fun o => o.id = i) = list at hfilter hlength ⊢
  match list, hlength with
  | [], _ => exact hfilter.eq_nil
  | [o], _ => exact List.perm_singleton.1 hfilter

theorem targetOf?_reordered (h : SameOrder operations d.operations) (r : String) :
    targetOf? options { d with operations } r = targetOf? options d r := by
  obtain ⟨i, hi⟩ := exists_id options r
  have only (operations : List Operation) :
      (operations.flatMap fun o => targetsOf options (.operation o)).find? (fun x => x.reference = r)
        = ((operations.filter (·.id = i)).flatMap fun o => targetsOf options (.operation o)).find?
            fun x => x.reference = r :=
    find?_flatMap_filter fun o ho x hx => by simpa using hi o (by simpa using ho) x hx
  calc targetOf? options { d with operations } r
      = ((componentTargets options d.components).find? fun x => x.reference = r).or
          (((operations.filter (·.id = i)).flatMap fun o => targetsOf options (.operation o)).find?
            fun x => x.reference = r) := by rw [targetOf?, targets_eq, List.find?_append, only operations]
    _ = ((componentTargets options d.components).find? fun x => x.reference = r).or
          (((d.operations.filter (·.id = i)).flatMap fun o => targetsOf options (.operation o)).find?
            fun x => x.reference = r) := by rw [h i]
    _ = targetOf? options d r := by rw [targetOf?, targets_eq, List.find?_append, only d.operations]

theorem followed_reordered (h : SameOrder operations d.operations) :
    Followed options { d with operations } r ↔ Followed options d r := by
  unfold Followed Refers leadsTo?
  simp only [targetOf?_reordered h]
  rfl

theorem standIns_reordered (h : SameOrder operations d.operations) :
    r ∈ standIns options { d with operations } ↔ r ∈ standIns options d := by
  simp only [standIns, List.mem_map, List.mem_flatMap, h.mem_iff]

end Reordering

/-! ### The references that are accepted -/

section Accepted

theorem Followable.followed (h : Followable options d) (hr : Followed options d r) :
    d.resolve? r ≠ none ∨ r ∈ standIns options d := by
  obtain ⟨x, hx, hhole⟩ := followed_iff.1 hr
  obtain ⟨before, after, hall, hnew⟩ := exists_split hx
  refine (h before x after hall hnew r hhole).elim .inl fun hmem => ?_
  obtain ⟨y, hy, rfl⟩ := List.mem_map.1 hmem
  have hsub : before ++ [x] ⊆ targets options d := by simp [hall]
  exact target_reference (hsub hy)

theorem Followable.of_followed (h : ∀ r, Followed options d r → d.resolve? r ≠ none) : Followable options d := by
  intro before x after hall hnew r hr
  have hfollowed : Followed options d r := .of_split hall hnew hr
  exact .inl (h r hfollowed)

theorem followable_iff (hplain : ∀ r, Followed options d r → r ∉ standIns options d) :
    Followable options d ↔ ∀ r, Followed options d r → d.resolve? r ≠ none := by
  constructor
  · intro h r hr
    exact (h.followed hr).resolve_right (hplain r hr)
  · exact .of_followed

theorem exists_fillFile_reordered {id : String} {operations : List Operation}
    (hplain : ∀ r, Followed options d r → r ∉ standIns options d) (h : SameOrder operations d.operations) :
    (∃ file, fillFile options { d with operations } { id } = .ok file) ↔
      ∃ file, fillFile options d { id } = .ok file := by
  have hplain' : ∀ r, Followed options { d with operations } r → r ∉ standIns options { d with operations } := by
    intro r
    rw [followed_reordered h, standIns_reordered h]
    exact hplain r
  rw [exists_fillFile_iff, exists_fillFile_iff, followable_iff hplain, followable_iff hplain']
  simp only [followed_reordered h]
  rfl

/-- What becomes of the references that a run on an empty file follows. -/
structure ChecksReferences (options : Options) (d : Document) (id : String) : Prop where
  /-- The file is filled if all of them lead somewhere. -/
  filled : (∀ r, Followed options d r → d.resolve? r ≠ none) → ∃ file, fillFile options d { id } = .ok file
  /-- If it is, all of them lead somewhere, but for those that stand for a request or a response. -/
  resolved : ∀ file, fillFile options d { id } = .ok file →
    ∀ r, Followed options d r → r ∉ standIns options d → d.resolve? r ≠ none
  /-- Any other that leads nowhere makes the run fail, at itself or at one more that leads nowhere. -/
  reported : ∀ r, Followed options d r → r ∉ standIns options d → d.resolve? r = none →
    ∃ r', Followed options d r' ∧ d.resolve? r' = none ∧ fillFile options d { id } = .error (.danglingReference r')
  /-- Where none of them stands for a request or a response, the order of operations with different identifiers has
  no part in it. -/
  reordered : (∀ r, Followed options d r → r ∉ standIns options d) →
    ∀ operations : List Operation, SameOrder operations d.operations →
      ((∃ file, fillFile options { d with operations } { id } = .ok file) ↔
        ∃ file, fillFile options d { id } = .ok file)
  /-- And if no two operations have one identifier, they may come in any order. -/
  permuted : (∀ r, Followed options d r → r ∉ standIns options d) → (d.operations.map (·.id)).Nodup →
    ∀ operations : List Operation, operations.Perm d.operations →
      ((∃ file, fillFile options { d with operations } { id } = .ok file) ↔
        ∃ file, fillFile options d { id } = .ok file)

/-- **The references that are followed lead somewhere** where the file is filled, whatever the order of the
operations. -/
theorem fillFile_checks_references (options : Options) (d : Document) (id : String) :
    ChecksReferences options d id where
  filled := fun h => exists_fillFile_iff.2 (.of_followed h)
  resolved := by
    intro file h r hr hplain
    exact ((exists_fillFile_iff.1 ⟨file, h⟩).followed hr).resolve_right hplain
  reported := by
    intro r hr hplain hnone
    cases h : fillFile options d { id } with
    | ok file => exact absurd ((exists_fillFile_iff.1 ⟨file, h⟩).followed hr) (by simp [hnone, hplain])
    | error e =>
      obtain ⟨r', hr', hnone', rfl⟩ := fillFile_dangling h
      exact ⟨r', hr', hnone', rfl⟩
  reordered hplain _ h := exists_fillFile_reordered hplain h
  permuted hplain hids _ hperm := exists_fillFile_reordered hplain (sameOrder_of_perm hids hperm)

end Accepted

/-! ### Two documents with operations -/

/-- One operation lists pets, and one gets a pet. -/
def shop : Document where
  components := { schemas := [("Pet", { kind := some .string })] }
  operations := [
    { id := "list", method := "get", path := "/pets",
      response := some { reference := some "#/components/schemas/Pet" } },
    { id := "get", method := "get", path := "/pet",
      response := some { reference := some "#/components/schemas/Pet" } }]

/-- The two operations may change places. -/
theorem shop_permuted : (∀ r, Followed {} shop r → r ∉ standIns {} shop) ∧ (shop.operations.map (·.id)).Nodup ∧
    ∃ file, fillFile {} { shop with operations := shop.operations.reverse } { id := "valibot" } = .ok file := by
  have hplain : ∀ r, Followed {} shop r → r ∉ standIns {} shop := by
    intro r hr
    have hreferences : shop.references = ["#/components/schemas/Pet", "#/components/schemas/Pet"] := by rfl
    obtain rfl : r = "#/components/schemas/Pet" := by simpa [hreferences] using hr.mem_references
    decide
  have hfilled : ∃ file, fillFile {} shop { id := "valibot" } = .ok file := exists_fillFile (by decide +kernel)
  refine ⟨hplain, by decide, ?_⟩
  exact ((fillFile_checks_references {} shop "valibot").permuted hplain (by decide) _ (List.reverse_perm _)).2 hfilled

/-- A node that is a reference to no component. -/
def missing : Node := { reference := some "#/components/schemas/Missing" }

/-- Two operations with one identifier, of which the response to the first is declared and the one to the second is
not. -/
def repeated : Document where
  operations := [
    { id := "get", method := "get", path := "/pet", response := some { kind := some .string } },
    { id := "get", method := "get", path := "/owner", response := some missing }]

/-- The same operations with the second before the first. -/
def repeatedReversed : Document := { repeated with operations := repeated.operations.reverse }

/-- What is declared first under each reference has no references in it. -/
theorem repeated_followable : Followable {} repeated := by
  intro before x after hall hnew r hr
  have hplain : ∀ x ∈ targets {} repeated, (targetOf? {} repeated x.reference).map (·.node.references) = some [] := by
    decide
  have hx := targetOf?_split hall hnew
  have hnode := hplain x (targetOf?_mem hx).1
  rw [hx, Option.map_some] at hnode
  simpa [Option.some.inj hnode] using outline_holes _ hr

theorem not_followable_repeatedReversed : ¬ Followable {} repeatedReversed := by
  intro h
  obtain ⟨request, response, after, hall, hrequest, hresponse, hnode⟩ : ∃ request response after,
      targets {} repeatedReversed = [request] ++ response :: after ∧ request.reference = "#/operations/data/get" ∧
        response.reference = "#/operations/response/get" ∧ response.node = missing :=
    ⟨_, _, _, rfl, rfl, rfl, rfl⟩
  have hhole : "#/components/schemas/Missing" ∈ holesIn {} response.node := by
    rw [hnode, missing, holesIn, outline_reference]
    simp [Sketch.holesOf, Sketch.collectAll, Sketch.collect]
  have hnew : response.reference ∉ [request].map (·.reference) := by
    rw [List.map_singleton, hrequest, hresponse]
    decide
  rcases h _ _ _ hall hnew _ hhole with hleads | hmem
  · exact hleads (by decide)
  · simp [hrequest, hresponse] at hmem

/-- Which of two operations with one identifier comes first decides whether the file is filled. -/
theorem repeated_depends_on_order : (∃ file, fillFile {} repeated { id := "valibot" } = .ok file) ∧
    fillFile {} { repeated with operations := repeated.operations.reverse } { id := "valibot" } =
      .error (.danglingReference "#/components/schemas/Missing") := by
  refine ⟨exists_fillFile_iff.2 repeated_followable, ?_⟩
  show fillFile {} repeatedReversed { id := "valibot" } = .error (.danglingReference "#/components/schemas/Missing")
  cases h : fillFile {} repeatedReversed { id := "valibot" } with
  | ok file => exact absurd (exists_fillFile_iff.1 ⟨file, h⟩) not_followable_repeatedReversed
  | error e =>
    obtain ⟨r, hr, -, rfl⟩ := fillFile_dangling h
    have hreferences : repeatedReversed.references = ["#/components/schemas/Missing"] := by rfl
    obtain rfl : r = "#/components/schemas/Missing" := by simpa [hreferences] using hr.mem_references
    rfl

end Typeforge.Validator
