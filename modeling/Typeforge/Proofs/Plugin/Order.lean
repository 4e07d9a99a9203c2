import Typeforge.Proofs.Plugin.Visit

/-!
# The order in which plugins run

The walk visits the plugins as they are listed. Where it does not fail, each plugin comes once and after the
ones it depends on (`Arranges`), and what is listed in such an order stays as it is. It fails just if two
plugins have one name or if some plugin depends on itself, over other plugins or at once (`Decides`).
-/

namespace Typeforge.Schedule

variable {ds es : List Descriptor} {result places : List Nat} {i j : Nat} {name : String} {ps : List String}
  {gone : Except Failure (List Nat)}

/-! ### The whole walk -/

/-- The walk over all places. -/
def walk (ds : List Descriptor) : Except Failure (List Nat) :=
  (List.range ds.length).foldlM (fun order i => visit ds (List.range ds.length) [] order i) []

theorem order_eq (ds : List Descriptor) : order ds = match repeated? [] (ds.map (·.name)) with
    | some name => .error (.duplicatePlugin name)
    | none => walk ds := rfl

theorem walk_ok (h : walk ds = .ok result) : Sorted ds result ∧ result.Perm (List.range ds.length) := by
  obtain ⟨hsorted, ⟨-, hinside⟩, hall⟩ := foldlM_ok
    (R := fun order result => order <+: result ∧ ∀ j ∈ result, j ∈ order ∨ j ∈ List.range ds.length)
    (P := fun order i => i ∈ order)
    (fun _ => ⟨List.prefix_rfl, fun _ => .inl⟩)
    (fun _ _ _ h h' => ⟨h.1.trans h'.1, fun j hj => (h'.2 j hj).elim (h.2 j) .inr⟩)
    (fun _ _ _ h hmem => h.1.subset hmem)
    (fun _ _ _ _ hs h => visit_ok List.nodup_range hs h) sorted_nil h
  refine ⟨hsorted, (List.perm_ext_iff_of_nodup hsorted.distinct List.nodup_range).2 fun j => ⟨fun hj => ?_, hall j⟩⟩
  simpa using hinside j hj

theorem walk_error {e : Failure} (h : walk ds = .error e) : TellsCircle ds e :=
  foldlM_error (fun _ hi _ _ h => visit_error (Way.start (List.mem_range.1 hi)) h) h

theorem order_of_nodup (hnames : (ds.map (·.name)).Nodup) : order ds = walk ds := by
  rw [order_eq, repeated?_nil.2 hnames]

/-- All that a list of plugins can come to. -/
inductive Outcome (ds : List Descriptor) : Except Failure (List Nat) → Prop
  | duplicate {name : String} (hname : repeated? [] (ds.map (·.name)) = some name)
      (hrepeated : ¬ (ds.map (·.name)).Nodup) : Outcome ds (.error (.duplicatePlugin name))
  | cycle {js : List Nat} (hnames : (ds.map (·.name)).Nodup) (hcircle : Circular (DependsOn ds) js)
      (hinside : ∀ j ∈ js, j < ds.length) : Outcome ds (.error (.pluginCycle (namesAt ds js)))
  | sorted {result : List Nat} (hnames : (ds.map (·.name)).Nodup) (hsorted : Sorted ds result)
      (hall : result.Perm (List.range ds.length)) : Outcome ds (.ok result)

theorem outcome_order (ds : List Descriptor) : Outcome ds (order ds) := by
  by_cases hnames : (ds.map (·.name)).Nodup
  · rw [order_of_nodup hnames]
    cases h : walk ds with
    | ok result => exact .sorted hnames (walk_ok h).1 (walk_ok h).2
    | error e =>
      obtain ⟨js, rfl, hcircle, hinside⟩ := walk_error h
      exact .cycle hnames hcircle hinside
  · rw [order_eq]
    cases h : repeated? [] (ds.map (·.name)) with
    | some name => exact .duplicate h hnames
    | none => exact absurd (repeated?_nil.1 h) hnames

theorem Outcome.of_ok (h : Outcome ds (.ok result)) :
    (ds.map (·.name)).Nodup ∧ Sorted ds result ∧ result.Perm (List.range ds.length) := by
  cases h with
  | sorted hnames hsorted hall => exact ⟨hnames, hsorted, hall⟩

/-! ### Plugins in their order -/

theorem order_congr (hnames : ds.map (·.name) = es.map (·.name))
    (hdeps : ∀ i, dependenciesOf ds i = dependenciesOf es i) : order ds = order es := by
  have hlen : ds.length = es.length := by simpa using congrArg List.length hnames
  have hwalk : walk ds = walk es := by
    rw [walk, walk, hlen]
    exact foldlM_congr_mem fun i _ order => visit_congr hnames hdeps
  rw [order_eq, order_eq, hnames, hwalk]

theorem walk_of_sorted (hdeps : ∀ i, ∀ j ∈ dependenciesOf ds i, j < i) : walk ds = .ok (List.range ds.length) := by
  -- after the first `k` places, these are what is done
  suffices h : ∀ k ≤ ds.length, (List.range k).foldlM (fun order i => visit ds (List.range ds.length) [] order i) []
      = .ok (List.range k) from h _ (Nat.le_refl _)
  intro k hk
  induction k with
  | zero => rfl
  | succ k ih =>
    rw [List.range_succ, List.foldlM_append, ih (Nat.le_of_succ_le hk)]
    have hvisit : visit ds (List.range ds.length) [] (List.range k) k = .ok (List.range k ++ [k]) :=
      visit_of_subset (List.mem_range.2 hk) (by simp) fun j hj => List.mem_range.2 (hdeps k j hj)
    exact (List.foldlM_cons ..).trans (congrArg (· >>= _) hvisit)

/-- The places of all plugins, each one after those that it depends on. -/
structure Arranges (ds : List Descriptor) (result : List Nat) : Prop where
  all : result.Perm (List.range ds.length)
  after : ∀ i j, DependsOn ds i j → result.idxOf j < result.idxOf i
  /-- A dependency that no plugin has the name of may as well be left out. -/
  unlisted : order (ds.map (active (ds.map (·.name)))) = .ok result
  /-- What is listed in such an order already stays as it is. -/
  stable : (∀ i j, DependsOn ds i j → j < i) → result = List.range ds.length

/-- **Each plugin runs once, after the plugins that it depends on**, and where the list allows it, as listed. -/
theorem order_arranges (h : order ds = .ok result) : Arranges ds result := by
  obtain ⟨hnames, hsorted, hperm⟩ := (h ▸ outcome_order ds).of_ok
  refine ⟨hperm, fun i j hij => ?_, ?_, fun hlisted => ?_⟩
  · have hi : i ∈ result := hperm.mem_iff.2 (List.mem_range.2 hij.lt.1)
    exact hsorted.idxOf_lt hi ((mem_dependenciesOf hnames).2 hij)
  · rw [← h]
    exact order_congr (map_name_active _ ds) (dependenciesOf_active ds)
  · rw [order_of_nodup hnames, walk_of_sorted fun i j hj => hlisted i j (dependsOn_of_mem hj)] at h
    exact (Except.ok.inj h).symm

/-- A kit needs the types, which are listed last, and something that is not listed. -/
def kit : List Descriptor := [
  { name := "sdk", dependencies := ["types", "docs"], output := "sdk.ts" },
  { name := "valibot", output := "valibot.ts" },
  { name := "types", output := "types.ts" }]

theorem late_dependency_arranges : order kit = .ok [2, 0, 1] ∧ Arranges kit [2, 0, 1] := by
  have h : order kit = .ok [2, 0, 1] := by
    decide +kernel
  exact ⟨h, order_arranges h⟩

/-! ### Plugins that have no order -/

/-- The outcome with no more than `budget` visits open at once. -/
def orderOr (ds : List Descriptor) (gone : Except Failure (List Nat)) (budget : Nat) : Except Failure (List Nat) :=
  match repeated? [] (ds.map (·.name)) with
  | some name => .error (.duplicatePlugin name)
  | none => (List.range ds.length).foldlM (fun order i => visitOr ds gone budget [] order i) []

theorem orderOr_eq {budget : Nat} (hbudget : ds.length < budget) : orderOr ds gone budget = order ds := by
  have hwalk : (List.range ds.length).foldlM (fun order i => visitOr ds gone budget [] order i) [] = walk ds :=
    foldlM_congr_mem fun i hi _ => visitOr_eq (Way.start (List.mem_range.1 hi)) (by simpa using hbudget)
  rw [order_eq, orderOr, hwalk]

theorem Sorted.falls (hsorted : Sorted ds result) (hnames : (ds.map (·.name)).Nodup)
    (hall : result.Perm (List.range ds.length)) (hij : DependsOn ds i j) : result.idxOf j < result.idxOf i :=
  hsorted.idxOf_lt (hall.mem_iff.2 (List.mem_range.2 hij.lt.1)) ((mem_dependenciesOf hnames).2 hij)

theorem Sorted.not_transGen (hsorted : Sorted ds result) (hnames : (ds.map (·.name)).Nodup)
    (hall : result.Perm (List.range ds.length)) : ¬ Relation.TransGen (DependsOn ds) i i :=
  not_transGen_of_falls (fun _ _ hij => hsorted.falls hnames hall hij) i

structure Decides (ds : List Descriptor) : Prop where
  /-- The walk ends: never are more visits open than there are plugins. -/
  ends : ∀ gone budget, ds.length < budget → orderOr ds gone budget = order ds
  /-- What is told of two plugins of one name is the first one whose name an earlier one has. -/
  duplicate_iff : ∀ name, order ds = .error (.duplicatePlugin name) ↔ ∃ before d after, ds = before ++ d :: after ∧
    (before.map (·.name)).Nodup ∧ d.name ∈ before.map (·.name) ∧ d.name = name
  repeated_iff : (∃ name, order ds = .error (.duplicatePlugin name)) ↔ ¬ (ds.map (·.name)).Nodup
  cycle_iff : (ds.map (·.name)).Nodup →
    ((∃ ps, order ds = .error (.pluginCycle ps)) ↔ ∃ i, Relation.TransGen (DependsOn ds) i i)
  /-- What is told of a cycle are the names around it. -/
  circular : ∀ ps, order ds = .error (.pluginCycle ps) → Circular (Lists ds) ps
  ok_iff : (∃ result, order ds = .ok result) ↔
    (ds.map (·.name)).Nodup ∧ ∀ i, ¬ Relation.TransGen (DependsOn ds) i i

section Outcomes

variable {outcome : Except Failure (List Nat)} (h : Outcome ds outcome)

include h

theorem Outcome.duplicate_iff :
    outcome = .error (.duplicatePlugin name) ↔ repeated? [] (ds.map (·.name)) = some name := by
  cases h with
  | duplicate hname => simp [hname]
  | cycle hnames => simp [repeated?_nil.2 hnames]
  | sorted hnames => simp [repeated?_nil.2 hnames]

theorem Outcome.repeated_iff : (∃ name, outcome = .error (.duplicatePlugin name)) ↔ ¬ (ds.map (·.name)).Nodup := by
  cases h with
  | duplicate _ hrepeated => simp [hrepeated]
  | cycle hnames => simp [hnames]
  | sorted hnames => simp [hnames]

theorem Outcome.cycle_iff : (∃ ps, outcome = .error (.pluginCycle ps)) ↔
    (ds.map (·.name)).Nodup ∧ ∃ i, Relation.TransGen (DependsOn ds) i i := by
  cases h with
  | duplicate _ hrepeated => simp [hrepeated]
  | cycle hnames hcircle => exact iff_of_true ⟨_, rfl⟩ ⟨hnames, hcircle.transGen⟩
  | sorted hnames hsorted hall => simp [hsorted.not_transGen hnames hall]

theorem Outcome.circular (hcycle : outcome = .error (.pluginCycle ps)) : Circular (Lists ds) ps := by
  cases h with
  | cycle hnames hcircle hinside =>
    cases hcycle
    exact circular_namesAt hnames hcircle hinside
  | duplicate | sorted => cases hcycle

theorem Outcome.ok_iff : (∃ result, outcome = .ok result) ↔
    (ds.map (·.name)).Nodup ∧ ∀ i, ¬ Relation.TransGen (DependsOn ds) i i := by
  cases h with
  | duplicate _ hrepeated => simp [hrepeated]
  | cycle hnames hcircle => exact iff_of_false nofun fun hno => hcircle.transGen.elim hno.2
  | sorted hnames hsorted hall => simp [hnames, hsorted.not_transGen hnames hall]

end Outcomes

/-- A name that comes again first is the one of a plugin that one of the same name is before. -/
theorem repeated?_map_name_iff : repeated? [] (ds.map (·.name)) = some name ↔ ∃ before d after,
    ds = before ++ d :: after ∧ (before.map (·.name)).Nodup ∧ d.name ∈ before.map (·.name) ∧ d.name = name := by
  rw [repeated?_eq_some_iff]
  constructor
  · rintro ⟨before, after, heq, hname, hdistinct, -⟩
    obtain ⟨before, rest, rfl, rfl, hrest⟩ := List.map_eq_append_iff.1 heq
    obtain ⟨d, after, rfl, rfl, rfl⟩ := List.map_eq_cons_iff.1 hrest
    exact ⟨before, d, after, rfl, hdistinct, by simpa using hname, rfl⟩
  · rintro ⟨before, d, after, rfl, hdistinct, hname, rfl⟩
    exact ⟨before.map (·.name), after.map (·.name), by simp, .inr hname, hdistinct, by simp⟩

/-- **A list of plugins has an order just if their names differ and none depends on itself**, over others or at
once. -/
theorem order_decides (ds : List Descriptor) : Decides ds where
  ends := fun _ _ => orderOr_eq
  duplicate_iff := fun _ => (outcome_order ds).duplicate_iff.trans repeated?_map_name_iff
  repeated_iff := (outcome_order ds).repeated_iff
  cycle_iff := fun hnames => (outcome_order ds).cycle_iff.trans (and_iff_right hnames)
  circular := fun _ => (outcome_order ds).circular
  ok_iff := (outcome_order ds).ok_iff

example : order [{ name := "a", dependencies := ["b"], output := "a.ts" },
    { name := "b", dependencies := ["c"], output := "b.ts" },
    { name := "c", dependencies := ["a"], output := "c.ts" }] = .error (.pluginCycle ["a", "b", "c", "a"]) := by
  decide +kernel

end Typeforge.Schedule
