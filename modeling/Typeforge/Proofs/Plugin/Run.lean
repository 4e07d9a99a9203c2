import Typeforge.Plugin.Run
import Typeforge.Proofs.Plugin.Order
import Typeforge.Proofs.Validator.Dangling

/-!
# Runs of plugins

A run first looks at the descriptors alone (`checked`): no two plugins may write one file, and the plugins must have an
order. Then each has its turn, in this order, and sees the files of those whose turn is over (`Turns`), and there is
no more to a run than these turns (`foldlM_runPlugin_iff`). So whoever has its turn sees the files of all that it
depends on, as the run ends with them (`RunsInOrder`), and where two plugins have one name, none has a turn
(`RefusesRepeated`).
-/

namespace Typeforge

open Schema Schedule

variable {document : Document} {plugins ps : List Plugin} {ds : List Descriptor} {before produced : List Produced}

/-! ### What is checked first -/

section Checks

variable {d : Descriptor} {seen : List String}

theorem map_output_sharedOutput? (seen : List String) (ds : List Descriptor) :
    (sharedOutput? seen ds).map (·.output) = repeated? seen (ds.map (·.output)) := by
  induction ds generalizing seen with
  | nil => rfl
  | cons e ds ih =>
    rw [sharedOutput?, List.map_cons, repeated?]
    by_cases hseen : seen.contains e.output = true
    · rw [if_pos hseen, if_pos hseen]
      rfl
    · rw [if_neg hseen, if_neg hseen]
      exact ih _

theorem sharedOutput?_eq_none_iff : sharedOutput? [] ds = none ↔ (ds.map (·.output)).Nodup := by
  rw [← repeated?_nil, ← map_output_sharedOutput?, Option.map_eq_none_iff]

/-- What is told of two plugins that write one file is the first one whose file an earlier one writes. -/
theorem sharedOutput?_split (hseen : seen.Nodup) (h : sharedOutput? seen ds = some d) :
    ∃ before after, ds = before ++ d :: after ∧ d.output ∈ (before.map (·.output)).reverse ++ seen ∧
      ((before.map (·.output)).reverse ++ seen).Nodup := by
  induction ds generalizing seen with
  | nil => cases h
  | cons e ds ih =>
    rw [sharedOutput?] at h
    by_cases hmem : seen.contains e.output = true
    · rw [if_pos hmem] at h
      cases h
      exact ⟨[], ds, rfl, by simpa using hmem, hseen⟩
    · rw [if_neg hmem] at h
      have hnew : e.output ∉ seen := by simpa using hmem
      obtain ⟨before, after, rfl, hout, hdistinct⟩ := ih (List.nodup_cons.2 ⟨hnew, hseen⟩) h
      exact ⟨e :: before, after, rfl, by simpa using hout, by simpa using hdistinct⟩

/-- The order of plugins of which no two write one file. -/
def checked (ds : List Descriptor) : Except Failure (List Nat) :=
  match sharedOutput? [] ds with
  | some d => .error (.misconfigured (.sharedOutput d.name d.output))
  | none => Schedule.order ds

/-- The plugins in the order of their places. -/
def pluginsAt (plugins : List Plugin) (order : List Nat) : List Plugin := order.filterMap fun i => plugins[i]?

/-- A run is the checks and then the turns. -/
theorem generate_eq (document : Document) (plugins : List Plugin) : generate document plugins =
    checked (plugins.map Plugin.toDescriptor) >>= fun order =>
      (pluginsAt plugins order).foldlM (runPlugin document) [] := by
  unfold generate checked
  simp only
  cases sharedOutput? [] (plugins.map Plugin.toDescriptor) with
  | some d => rfl
  | none => rfl

theorem checked_ok {order : List Nat} (h : checked ds = .ok order) : Schedule.order ds = .ok order := by
  unfold checked at h
  split at h
  · cases h
  · exact h

end Checks

/-! ### One turn after the other -/

section Turns

/-- What the plugin sees whose turn comes after `k` others in a run that ends with `produced`. -/
def viewAt (document : Document) (produced : List Produced) (k : Nat) : View := ⟨document, produced.take k⟩

/-- After `before` was produced, the plugins `ps` had their turns, and the files are now `produced`. -/
structure Turns (document : Document) (before : List Produced) (ps : List Plugin) (produced : List Produced) :
    Prop where
  start : before <+: produced
  length : produced.length = before.length + ps.length
  turn : ∀ (k : Nat) (p : Plugin), ps[k]? = some p → ∃ file, produced[before.length + k]? = some ⟨p.name, file⟩ ∧
    p.fill (viewAt document produced (before.length + k)) { id := p.output } = .ok file

theorem runPlugin_ok_iff {p : Plugin} : runPlugin document before p = .ok produced ↔
    ∃ file, p.fill ⟨document, before⟩ { id := p.output } = .ok file ∧ produced = before ++ [⟨p.name, file⟩] := by
  unfold runPlugin
  cases p.fill ⟨document, before⟩ { id := p.output } with
  | error e => exact iff_of_false nofun (by simp)
  | ok file =>
    constructor
    · intro h
      cases h
      exact ⟨file, rfl, rfl⟩
    · rintro ⟨file', hfile, rfl⟩
      cases hfile
      rfl

theorem runPlugin_error_iff {p : Plugin} {e : Failure} :
    runPlugin document before p = .error e ↔ p.fill ⟨document, before⟩ { id := p.output } = .error e := by
  unfold runPlugin
  rw [bind_error_iff]
  exact or_iff_left (by rintro ⟨file, -, h⟩; cases h)

theorem turns_cons_iff {p : Plugin} : Turns document before (p :: ps) produced ↔
    ∃ file, p.fill ⟨document, before⟩ { id := p.output } = .ok file ∧
      Turns document (before ++ [⟨p.name, file⟩]) ps produced := by
  constructor
  · intro h
    obtain ⟨file, hlast, hfill⟩ := h.turn 0 p rfl
    have hbefore : produced.take before.length = before := (List.prefix_iff_eq_take.1 h.start).symm
    rw [Nat.add_zero, viewAt, hbefore] at hfill
    refine ⟨file, hfill, ?_, ?_, fun k q hq => ?_⟩
    · have htake : produced.take (before.length + 1) = before ++ [⟨p.name, file⟩] := by
        rw [List.take_add_one, hbefore, ← Nat.add_zero before.length, hlast]
        rfl
      exact htake ▸ List.take_prefix _ _
    · rw [h.length, List.length_append, List.length_cons, List.length_singleton]
      omega
    · -- the place `k` of those that are left is the place `k + 1` of all
      have hturn := h.turn (k + 1) q hq
      rwa [show before.length + (k + 1) = (before ++ [(⟨p.name, file⟩ : Produced)]).length + k by simp; omega] at hturn
  · rintro ⟨file, hfill, h⟩
    obtain ⟨rest, rfl⟩ := h.start
    refine ⟨⟨[⟨p.name, file⟩] ++ rest, by simp⟩, ?_, fun k q hq => ?_⟩
    · simp only [h.length, List.length_append, List.length_cons, List.length_nil]
      omega
    · cases k with
      | zero =>
        cases hq
        exact ⟨file, by simp, by simpa [viewAt] using hfill⟩
      | succ k =>
        have hturn := h.turn k q hq
        rwa [show (before ++ [(⟨p.name, file⟩ : Produced)]).length + k = before.length + (k + 1) by simp; omega]
          at hturn

/-- **A run is a sequence of turns**, each in sight of those before it, and nothing else. -/
theorem foldlM_runPlugin_iff :
    ps.foldlM (runPlugin document) before = .ok produced ↔ Turns document before ps produced := by
  induction ps generalizing before with
  | nil =>
    constructor
    · intro h
      cases h
      exact ⟨List.prefix_rfl, rfl, by simp⟩
    · intro h
      rw [h.start.eq_of_length h.length.symm]
      rfl
  | cons p ps ih =>
    rw [turns_cons_iff]
    constructor
    · intro h
      obtain ⟨next, hnext, hrest⟩ := foldlM_cons_ok h
      obtain ⟨file, hfill, rfl⟩ := runPlugin_ok_iff.1 hnext
      exact ⟨file, hfill, ih.1 hrest⟩
    · rintro ⟨file, hfill, h⟩
      have hnext := runPlugin_ok_iff.2 ⟨file, hfill, rfl⟩
      rw [List.foldlM_cons, hnext]
      exact ih.2 h

theorem generate_ok_iff : generate document plugins = .ok produced ↔
    ∃ order, checked (plugins.map Plugin.toDescriptor) = .ok order ∧
      Turns document [] (pluginsAt plugins order) produced := by
  rw [generate_eq]
  cases checked (plugins.map Plugin.toDescriptor) with
  | error e => exact iff_of_false nofun (by simp)
  | ok order =>
    constructor
    · intro h
      exact ⟨order, rfl, foldlM_runPlugin_iff.1 h⟩
    · rintro ⟨order', horder, h⟩
      cases horder
      exact foldlM_runPlugin_iff.2 h

/-- A run fails where the descriptors alone do not pass, or at the turn of a plugin, after the turns of all before
it. -/
theorem generate_error_iff {e : Failure} : generate document plugins = .error e ↔
    checked (plugins.map Plugin.toDescriptor) = .error e ∨
      ∃ order before p after produced, checked (plugins.map Plugin.toDescriptor) = .ok order ∧
        pluginsAt plugins order = before ++ p :: after ∧ Turns document [] before produced ∧
        p.fill ⟨document, produced⟩ { id := p.output } = .error e := by
  rw [generate_eq, bind_error_iff]
  refine or_congr_right ⟨?_, ?_⟩
  · rintro ⟨order, hchecked, h⟩
    obtain ⟨before, p, after, produced, hps, hbefore, hp⟩ := foldlM_error_iff.1 h
    exact ⟨order, before, p, after, produced, hchecked, hps, foldlM_runPlugin_iff.1 hbefore, runPlugin_error_iff.1 hp⟩
  · rintro ⟨order, before, p, after, produced, hchecked, hps, hbefore, hp⟩
    refine ⟨order, hchecked, foldlM_error_iff.2 ⟨before, p, after, produced, hps, ?_, runPlugin_error_iff.2 hp⟩⟩
    exact foldlM_runPlugin_iff.2 hbefore

theorem Turns.plugin_of_getElem? (h : Turns document [] ps produced) {k : Nat} {q : Produced}
    (hq : produced[k]? = some q) : ∃ p, ps[k]? = some p ∧ p.name = q.plugin := by
  have hk : k < ps.length := by
    have hlt := (List.getElem?_eq_some_iff.1 hq).1
    have hlength : produced.length = 0 + ps.length := h.length
    omega
  have hp : ps[k]? = some ps[k] := List.getElem?_eq_getElem hk
  obtain ⟨file, hfile, -⟩ := h.turn k _ hp
  rw [List.length_nil, Nat.zero_add, hq] at hfile
  cases hfile
  exact ⟨_, hp, rfl⟩

theorem Turns.map_plugin (h : Turns document [] ps produced) : produced.map (·.plugin) = ps.map (·.name) := by
  refine List.ext_getElem? fun k => ?_
  rw [List.getElem?_map, List.getElem?_map]
  cases hk : produced[k]? with
  | some q =>
    obtain ⟨p, hp, hname⟩ := h.plugin_of_getElem? hk
    simp [hp, hname]
  | none =>
    have hlength : produced.length = 0 + ps.length := h.length
    have hge : produced.length ≤ k := List.getElem?_eq_none_iff.1 hk
    rw [List.getElem?_eq_none_iff.2 (by omega : ps.length ≤ k)]
    rfl

end Turns

/-! ### What a plugin sees -/

section Sees

variable {order : List Nat} {name : String} {file : File} {i j : Nat}

theorem View.fileOf?_eq_some_iff {v : View} (hnames : (v.produced.map (·.plugin)).Nodup) :
    v.fileOf? name = some file ↔ ⟨name, file⟩ ∈ v.produced := by
  rw [View.fileOf?, Option.map_eq_some_iff]
  constructor
  · rintro ⟨q, hq, rfl⟩
    have hname : q.plugin = name := by simpa using List.find?_some hq
    exact hname ▸ List.mem_of_find?_eq_some hq
  · intro hmem
    obtain ⟨q, hq⟩ : ∃ q, v.produced.find? (fun p => p.plugin = name) = some q := by
      rw [← Option.isSome_iff_exists, List.find?_isSome]
      exact ⟨_, hmem, by simp⟩
    have hname : q.plugin = name := by simpa using List.find?_some hq
    have hsame : q = ⟨name, file⟩ := List.inj_on_of_nodup_map hnames (List.mem_of_find?_eq_some hq) hmem hname
    exact ⟨q, hq, hsame ▸ rfl⟩

theorem getElem?_pluginsAt (hinside : ∀ i ∈ order, i < plugins.length) (k : Nat) :
    (pluginsAt plugins order)[k]? = order[k]?.bind fun i => plugins[i]? := by
  induction order generalizing k with
  | nil => rfl
  | cons i order ih =>
    have hlt : i < plugins.length := hinside i List.mem_cons_self
    have hi : plugins[i]? = some plugins[i] := List.getElem?_eq_getElem hlt
    rw [pluginsAt, List.filterMap_cons_some hi]
    cases k with
    | zero => exact hi.symm
    | succ k => exact ih (fun j hj => hinside j (List.mem_cons_of_mem _ hj)) k

/-- The places in another order are the plugins in another order. -/
theorem pluginsAt_perm (hall : order.Perm (List.range plugins.length)) : (pluginsAt plugins order).Perm plugins := by
  have hlisted : pluginsAt plugins (List.range plugins.length) = plugins := by
    refine List.ext_getElem? fun k => ?_
    rw [getElem?_pluginsAt fun i => List.mem_range.1]
    by_cases hk : k < plugins.length
    · simp [hk]
    · simp [Nat.not_lt.1 hk]
  exact (hall.filterMap _).trans (.of_eq hlisted)

/-- A run of the plugins in the order of the places `order`, which ends with `produced`. -/
structure RunsInOrder (document : Document) (plugins : List Plugin) (order : List Nat) (produced : List Produced) :
    Prop where
  /-- One file for each plugin. -/
  all : order.Perm (List.range plugins.length)
  length : produced.length = order.length
  turn : ∀ (k i : Nat) (p : Plugin), order[k]? = some i → plugins[i]? = some p →
    ∃ file, produced[k]? = some ⟨p.name, file⟩ ∧ p.fill (viewAt document produced k) { id := p.output } = .ok file
  /-- What is seen at a turn are the files of the plugins before it, as the run ends with them. -/
  sees : ∀ (k : Nat) (name : String) (file : File), (viewAt document produced k).fileOf? name = some file ↔
    ∃ j < k, ∃ i p, order[j]? = some i ∧ plugins[i]? = some p ∧ p.name = name ∧ produced[j]? = some ⟨name, file⟩
  /-- What a plugin depends on, at once or over others, has its turn before it. -/
  dependencies : ∀ (k i i' : Nat), order[k]? = some i →
    Relation.TransGen (DependsOn (plugins.map Plugin.toDescriptor)) i i' → ∃ j < k, order[j]? = some i'

theorem exists_before_of_transGen {result : List Nat} (hnames : (ds.map (·.name)).Nodup) (hsorted : Sorted ds result)
    (hall : result.Perm (List.range ds.length)) {k : Nat} (hi : result[k]? = some i)
    (h : Relation.TransGen (DependsOn ds) i j) : ∃ l < k, result[l]? = some j := by
  have hfalls : result.idxOf j < result.idxOf i ∧ j < ds.length := by
    induction h with
    | single hab => exact ⟨hsorted.falls hnames hall hab, hab.lt.2⟩
    | tail _ hbc ih => exact ⟨(hsorted.falls hnames hall hbc).trans ih.1, hbc.lt.2⟩
  have hk : result.idxOf i = k := by
    obtain ⟨hlt, rfl⟩ := List.getElem?_eq_some_iff.1 hi
    exact hsorted.distinct.idxOf_getElem k hlt
  have hj : j ∈ result := hall.mem_iff.2 (List.mem_range.2 hfalls.2)
  exact ⟨result.idxOf j, hk ▸ hfalls.1, List.getElem?_idxOf hj⟩

theorem Turns.sees_iff (h : Turns document [] ps produced) (hnames : (ps.map (·.name)).Nodup) (k : Nat) :
    (viewAt document produced k).fileOf? name = some file ↔
      ∃ j < k, ∃ p, ps[j]? = some p ∧ p.name = name ∧ produced[j]? = some ⟨name, file⟩ := by
  -- what is seen is a beginning of what was produced, and that has the names of the plugins
  have hdistinct : ((viewAt document produced k).produced.map (·.plugin)).Nodup := by
    have hsub : ((produced.take k).map (·.plugin)).Sublist (produced.map (·.plugin)) :=
      (List.take_sublist k produced).map _
    exact (h.map_plugin ▸ hsub).nodup hnames
  rw [View.fileOf?_eq_some_iff hdistinct, viewAt, List.mem_iff_getElem?]
  constructor
  · rintro ⟨j, hj⟩
    rw [List.getElem?_take] at hj
    split at hj
    · rename_i hlt
      obtain ⟨p, hp, hname⟩ := h.plugin_of_getElem? hj
      exact ⟨j, hlt, p, hp, hname, hj⟩
    · cases hj
  · rintro ⟨j, hlt, p, -, -, hj⟩
    exact ⟨j, by rw [List.getElem?_take, if_pos hlt, hj]⟩

/-- **A run takes the plugins in their order**, and each one sees the finished files of those before it, of all that
it depends on among them. -/
theorem generate_runs_in_order (h : generate document plugins = .ok produced) : ∃ order,
    Schedule.order (plugins.map Plugin.toDescriptor) = .ok order ∧ RunsInOrder document plugins order produced := by
  obtain ⟨order, hchecked, hturns⟩ := generate_ok_iff.1 h
  have horder := checked_ok hchecked
  obtain ⟨hnames, hsorted, hall⟩ := (horder ▸ outcome_order _).of_ok
  have hplaces : order.Perm (List.range plugins.length) := by simpa using hall
  have hinside : ∀ i ∈ order, i < plugins.length := fun i hi => List.mem_range.1 (hplaces.mem_iff.1 hi)
  have hperm := pluginsAt_perm hplaces
  have hran : ((pluginsAt plugins order).map (·.name)).Nodup := by
    refine (hperm.map _).nodup_iff.2 ?_
    simpa [Function.comp_def] using hnames
  refine ⟨order, horder, hplaces, ?_, fun k i p hi hp => ?_, fun k name file => ?_, fun k i i' hi hdep => ?_⟩
  · have hlength := hturns.length
    rw [List.length_nil, Nat.zero_add, hperm.length_eq] at hlength
    rw [hlength, hplaces.length_eq, List.length_range]
  · have hat : (pluginsAt plugins order)[k]? = some p := by rw [getElem?_pluginsAt hinside, hi, Option.bind_some, hp]
    simpa using hturns.turn k p hat
  · rw [hturns.sees_iff hran]
    simp only [getElem?_pluginsAt hinside, Option.bind_eq_some_iff]
    constructor
    · rintro ⟨j, hj, p, ⟨i, hi, hp⟩, hname, hfile⟩
      exact ⟨j, hj, i, p, hi, hp, hname, hfile⟩
    · rintro ⟨j, hj, i, p, hi, hp, hname, hfile⟩
      exact ⟨j, hj, p, ⟨i, hi, hp⟩, hname, hfile⟩
  · exact exists_before_of_transGen hnames hsorted hall hi hdep

end Sees

/-- Gives the validator of each component a second name. -/
def aliases : Plugin where
  name := "aliases"
  dependencies := [Validator.pluginName]
  output := "aliases"
  fill view file :=
    match view.fileOf? Validator.pluginName with
    | none => .error (.misconfigured (.reported "valibot did not run"))
    | some validators => .ok { file with
        body := view.document.events.filterMap fun
          | .schema reference _ =>
            (validators.nameOf? reference).map fun name => .const true (name ++ "Alias") none (.ident name)
          | _ => none }

/-- A document with one component. -/
def kennel : Document where
  components := { schemas := [("Pet", { kind := some .string })] }

/-- The plugin of the second names is listed first and has its turn last. -/
theorem aliases_run_in_order : ∃ produced, generate kennel [aliases, Validator.plugin {}] = .ok produced ∧
    ∃ order, Schedule.order ([aliases, Validator.plugin {}].map Plugin.toDescriptor) = .ok order ∧
      RunsInOrder kennel [aliases, Validator.plugin {}] order produced := by
  have hchecked : checked ([aliases, Validator.plugin {}].map Plugin.toDescriptor) = .ok [1, 0] := by
    decide +kernel
  obtain ⟨validators, hfirst⟩ : ∃ file, Validator.fillFile {} kennel { id := "valibot" } = .ok file :=
    Validator.exists_fillFile (by decide +kernel)
  have hran := generate_ok_iff.2 ⟨[1, 0], hchecked, turns_cons_iff.2 ⟨validators, hfirst,
    turns_cons_iff.2 ⟨_, rfl, foldlM_runPlugin_iff.1 rfl⟩⟩⟩
  exact ⟨_, hran, generate_runs_in_order hran⟩

/-! ### Plugins of one name -/

section Repeated

theorem generate_error {e : Failure} (h : checked (plugins.map Plugin.toDescriptor) = .error e) :
    generate document plugins = .error e := by
  rw [generate_eq, h]
  rfl

/-- No plugin of the list has a turn, whatever it would fill. -/
structure RefusesRepeated (ds : List Descriptor) : Prop where
  /-- Where no two plugins write one file, what is told is the first name that an earlier plugin has. -/
  duplicate : (ds.map (·.output)).Nodup → ∃ before d after, ds = before ++ d :: after ∧
    (before.map (·.name)).Nodup ∧ d.name ∈ before.map (·.name) ∧
    ∀ (document : Document) (plugins : List Plugin), plugins.map Plugin.toDescriptor = ds →
      generate document plugins = .error (.duplicatePlugin d.name)
  /-- Otherwise it is the first plugin that writes the file of an earlier one, of the same name or not. -/
  shared : ¬ (ds.map (·.output)).Nodup → ∃ before d after, ds = before ++ d :: after ∧
    (before.map (·.output)).Nodup ∧ d.output ∈ before.map (·.output) ∧
    ∀ (document : Document) (plugins : List Plugin), plugins.map Plugin.toDescriptor = ds →
      generate document plugins = .error (.misconfigured (.sharedOutput d.name d.output))

/-- **Plugins of one name never run**, but that they have one name is told only where no two plugins write one file. -/
theorem generate_refuses_repeated (h : ¬ (ds.map (·.name)).Nodup) : RefusesRepeated ds where
  duplicate := by
    intro hdistinct
    obtain ⟨name, hname⟩ := Option.ne_none_iff_exists'.1 (mt repeated?_nil.1 h)
    have hchecked : checked ds = .error (.duplicatePlugin name) := by
      rw [checked, sharedOutput?_eq_none_iff.2 hdistinct, order_eq, hname]
    obtain ⟨before, d, after, hds, hbefore, hmem, rfl⟩ := repeated?_map_name_iff.1 hname
    refine ⟨before, d, after, hds, hbefore, hmem, fun document plugins hplugins => ?_⟩
    subst hplugins
    exact generate_error hchecked
  shared := by
    intro hshared
    obtain ⟨d, hd⟩ := Option.ne_none_iff_exists'.1 (mt sharedOutput?_eq_none_iff.1 hshared)
    have hchecked : checked ds = .error (.misconfigured (.sharedOutput d.name d.output)) := by
      rw [checked, hd]
    obtain ⟨before, after, hds, hmem, hbefore⟩ := sharedOutput?_split List.nodup_nil hd
    rw [List.append_nil] at hmem hbefore
    refine ⟨before, d, after, hds, List.nodup_reverse.1 hbefore, List.mem_reverse.1 hmem,
      fun document plugins hplugins => ?_⟩
    subst hplugins
    exact generate_error hchecked

/-- Two plugins of one name that write a file each. -/
def twins : List Descriptor := [
  { name := "types", output := "types.ts" },
  { name := "valibot", output := "valibot.ts" },
  { name := "types", output := "more.ts" }]

theorem twins_refused : ¬ (twins.map (·.name)).Nodup ∧ RefusesRepeated twins := by
  have h : ¬ (twins.map (·.name)).Nodup := by
    decide
  exact ⟨h, generate_refuses_repeated h⟩

/-- That a plugin comes twice is not told if it writes the same file both times. -/
theorem same_plugin_shares_output : ¬ ([Validator.plugin {}, Validator.plugin {}].map (·.name)).Nodup ∧
    generate {} [Validator.plugin {}, Validator.plugin {}]
      = .error (.misconfigured (.sharedOutput "valibot" "valibot")) ∧
    ∀ name, generate {} [Validator.plugin {}, Validator.plugin {}] ≠ .error (.duplicatePlugin name) := by
  have h : generate {} [Validator.plugin {}, Validator.plugin {}]
      = .error (.misconfigured (.sharedOutput "valibot" "valibot")) := generate_error (by decide +kernel)
  refine ⟨by decide, h, fun name hname => ?_⟩
  rw [h] at hname
  cases hname

end Repeated

end Typeforge
