import Typeforge.Plugin.Builtin
import Typeforge.Proofs.Disk.Write
import Typeforge.Proofs.Plugin.Run
import Typeforge.Proofs.Types.Fill

/-!
# The outputs of a run on a disk

No two plugins of a run have one output, as a text. The file of an output goes where its path leads, and other texts may
lead there too: a point and a slash more change nothing. So what a run wrote stands at its path as long as no later
plugin writes there under another text (`OutputsWritten`), and outputs without a slash keep their files apart.
-/

namespace Typeforge

open Schema Schedule Memory

variable {document : Document} {plugins ps : List Plugin} {produced : List Produced}

/-! ### Keys -/

/-- The plugin fills the file that it is given, and does not begin another one. -/
def Plugin.KeepsKey (p : Plugin) : Prop := ∀ view file file', p.fill view file = .ok file' → file'.id = file.id

namespace Types

variable {options : Options} {d : Document} {n : Node} {r : String}

def SameKey (s t : File) : Prop := t.id = s.id

theorem SameKey.refl (s : File) : SameKey s s := rfl

theorem SameKey.trans (s t u : File) (h : SameKey s t) (h' : SameKey t u) : SameKey s u := Eq.trans h' h

theorem keepsKey_assignName : Keeps SameKey (assignName options r) := by
  intro s answer t h
  obtain ⟨-, rfl⟩ := ends_modifyGet.1 h
  rfl

theorem keepsKey_nameOfTarget : Keeps SameKey (nameOfTarget options d r) := by
  unfold nameOfTarget
  cases d.resolve? r with
  | some n => exact keepsKey_assignName
  | none =>
    intro s answer t h
    obtain ⟨-, rfl⟩ := ends_throw.1 h
    rfl

theorem keepsKey_declare : Keeps SameKey (declare options d r n) := by
  rw [declare_eq]
  refine Keeps.bind SameKey.trans keepsKey_assignName fun name => Keeps.bind SameKey.trans
    (Keeps.mapM SameKey.refl SameKey.trans fun r' _ => keepsKey_nameOfTarget) fun names => ?_
  intro s answer t h
  obtain ⟨-, rfl⟩ := ends_modify.1 h
  cases hc : (if options.comments then commentOn n.toAttributes else []).isEmpty
  · simp [SameKey, addShape, hc, File.add]
  · simp [SameKey, addShape, hc, File.add]

theorem plugin_keepsKey (options : Options) : (plugin options).KeepsKey := by
  intro view file file' h
  have keeps : Keeps SameKey
      (view.document.visit [.schema, .parameter, .requestBody] (declareEvent options view.document)) := by
    refine Keeps.forM SameKey.refl SameKey.trans fun e _ => ?_
    unfold declareEvent
    split
    · exact keepsKey_declare
    · exact Keeps.pure SameKey.refl _
  rcases fillFile_cases options view.document file with ⟨t, hends, hok⟩ | ⟨e, t, -, herror⟩
  · cases hok.symm.trans h
    exact keeps _ _ _ hends
  · cases herror.symm.trans h

end Types

namespace Validator

theorem plugin_keepsKey (options : Options) : (plugin options).KeepsKey := by
  intro view file file' h
  change fillFile options view.document file = .ok file' at h
  unfold fillFile at h
  simp only at h
  split at h
  · cases h
    unfold Session.addTo File.addImport
    simp only
    split <;> rfl
  · cases h

end Validator

namespace Builtin

theorem configured_ok {Changes : Type} {name : String} {decode : Json.Decoder Changes} {make : Option Changes → Plugin}
    {value : Option Json.Value} {p : Plugin} (h : configured name decode make value = .ok p) :
    ∃ changes, p = make changes := by
  unfold configured at h
  split at h
  · exact ⟨_, (Except.ok.inj h).symm⟩
  · split at h
    · exact ⟨_, (Except.ok.inj h).symm⟩
    · cases h

/-- Every plugin that has its options from a name and a value fills the file that it is given. -/
theorem instantiate_keepsKey {name : String} {options : Option Json.Value} {p : Plugin}
    (h : instantiate name options = .ok p) : p.KeepsKey := by
  unfold instantiate at h
  cases hmake : Keyed.get? plugins name with
  | none => rw [hmake] at h; cases h
  | some make =>
    rw [hmake] at h
    have hmem : (name, make) ∈ plugins := Keyed.mem_of_get? hmake
    simp only [plugins, List.mem_cons, Prod.mk.injEq, List.not_mem_nil, or_false] at hmem
    rcases hmem with ⟨-, rfl⟩ | ⟨-, rfl⟩
    · obtain ⟨changes, rfl⟩ := configured_ok h
      exact Types.plugin_keepsKey (.resolve changes)
    · obtain ⟨changes, rfl⟩ := configured_ok h
      exact Validator.plugin_keepsKey (.resolve changes)

end Builtin

theorem Turns.map_key (h : Turns document before ps produced) (hkeeps : ∀ p ∈ ps, p.KeepsKey) :
    produced.map (·.file.id) = before.map (·.file.id) ++ ps.map (·.output) := by
  induction ps generalizing before with
  | nil => rw [h.start.eq_of_length h.length.symm, List.map_nil, List.append_nil]
  | cons p ps ih =>
    obtain ⟨file, hfill, hrest⟩ := turns_cons_iff.1 h
    have hkey : file.id = p.output := hkeeps p List.mem_cons_self _ _ _ hfill
    rw [ih hrest fun q hq => hkeeps q (List.mem_cons_of_mem _ hq), List.map_append, List.append_assoc]
    simp [hkey]

theorem nodup_outputs {ds : List Descriptor} {order : List Nat} (h : checked ds = .ok order) :
    (ds.map (·.output)).Nodup := by
  unfold checked at h
  split at h
  · cases h
  · rename_i hnone
    exact sharedOutput?_eq_none_iff.1 hnone

/-! ### Outputs on a disk -/

/-- How the files of a run stand below the directory that they were written to. -/
structure OutputsWritten (plugins : List Plugin) (directory : String) (files : List File) (paths : List String)
    (t : Tree) : Prop extends Written directory files paths t where
  /-- No two outputs are one text. -/
  outputs : (plugins.map (·.output)).Nodup
  /-- The outputs are the keys of the files, if each plugin fills the file that it is given. -/
  keys : (∀ p ∈ plugins, p.KeepsKey) → (files.map (·.id)).Perm (plugins.map (·.output))
  /-- Of paths that only go down, those lead to one place that have the same parts. -/
  places_iff : ∀ f g : File, Path.Down f.path → Path.Down g.path →
    (placeOf t.here directory f = placeOf t.here directory g ↔ Path.parts f.path = Path.parts g.path)
  /-- Where no output has a slash, no file is written over another one. -/
  plain : (∀ p ∈ plugins, p.KeepsKey) → (∀ p ∈ plugins, '/' ∉ p.output.toList) →
    (files.map (placeOf t.here directory)).Nodup ∧
      ∀ f ∈ files, t.readText (Path.join directory f.path) = .ok f.text

/-- **A run whose files are all written** leaves at each path the last of the files that went where it leads. -/
theorem generated_written {directory : String} {paths : List String} {t t' : Tree}
    (hgenerate : generate document plugins = .ok produced)
    (hwrite : disk.writeFiles directory (produced.map (·.file)) t = (.ok paths, t')) :
    OutputsWritten plugins directory (produced.map (·.file)) paths t' := by
  obtain ⟨order, hchecked, hturns⟩ := generate_ok_iff.1 hgenerate
  have houtputs : (plugins.map (·.output)).Nodup := by simpa [Function.comp_def] using nodup_outputs hchecked
  have horder := checked_ok hchecked
  obtain ⟨-, -, hall⟩ := (horder ▸ outcome_order _).of_ok
  have hplaces : order.Perm (List.range plugins.length) := by simpa using hall
  have hperm := pluginsAt_perm hplaces
  have hkeys (hkeeps : ∀ p ∈ plugins, p.KeepsKey) :
      ((produced.map (·.file)).map (·.id)).Perm (plugins.map (·.output)) := by
    have hmap := hturns.map_key fun p hp => hkeeps p (hperm.mem_iff.1 hp)
    rw [List.map_map]
    exact (List.Perm.of_eq hmap).trans (hperm.map _)
  have hwritten := written_of_writeFiles hwrite
  refine { hwritten with
    outputs := houtputs
    keys := hkeys
    places_iff := fun f g hf hg => placeOf_eq_iff t'.here directory hf hg
    plain := fun hkeeps hplain => ?_ }
  have hdistinct : (((produced.map (·.file)).map (·.id))).Nodup := (hkeys hkeeps).nodup_iff.2 houtputs
  have hslash : ∀ f ∈ produced.map (·.file), '/' ∉ f.id.toList := by
    intro f hf
    obtain ⟨p, hp, hkey⟩ := List.mem_map.1 ((hkeys hkeeps).mem_iff.1 (List.mem_map_of_mem hf))
    exact hkey ▸ hplain p hp
  have hapart := nodup_places t'.here directory hdistinct hslash
  refine ⟨hapart, hwritten.own_iff.2 fun f hf g hg hsame => ?_⟩
  rw [List.inj_on_of_nodup_map hapart hf hg hsame]

/-- A disk with nothing on it. -/
def bare : Tree := ⟨.directory [], []⟩

/-- The plugins of types and of validators, each with its output. -/
def both (types validators : String) : List Plugin :=
  [Types.plugin { output := types }, Validator.plugin { output := validators }]

/-- The file of types where there is nothing to declare. -/
def noTypes (output : String) : File := { id := output }

/-- The file of validators where there is nothing to declare. -/
def noValidators (output : String) : File := { id := output, imports := [Validator.libraryImport] }

theorem generate_both (types validators : String)
    (hchecked : checked ((both types validators).map Plugin.toDescriptor) = .ok [0, 1]) :
    generate {} (both types validators) =
      .ok [⟨Types.pluginName, noTypes types⟩, ⟨Validator.pluginName, noValidators validators⟩] :=
  generate_ok_iff.2 ⟨[0, 1], hchecked, foldlM_runPlugin_iff.1 rfl⟩

/-- Both plugins as they are without options. Each file is at its path. -/
theorem both_written : ∃ produced paths t,
    (∀ p ∈ both "types" "valibot", ∃ name, Builtin.instantiate name none = .ok p) ∧
    generate {} (both "types" "valibot") = .ok produced ∧
    disk.writeFiles "generated" (produced.map (·.file)) bare = (.ok paths, t) ∧
    OutputsWritten (both "types" "valibot") "generated" (produced.map (·.file)) paths t ∧
    ((produced.map (·.file)).map (·.id)).Perm ["types", "valibot"] ∧
    ∀ f ∈ produced.map (·.file), t.readText (Path.join "generated" f.path) = .ok f.text := by
  have hbuiltin : ∀ p ∈ both "types" "valibot", ∃ name, Builtin.instantiate name none = .ok p := by
    simp only [both, List.forall_mem_cons, List.not_mem_nil, false_implies, implies_true, and_true]
    exact ⟨⟨Types.pluginName, rfl⟩, Validator.pluginName, rfl⟩
  have hkeeps : ∀ p ∈ both "types" "valibot", p.KeepsKey := by
    intro p hp
    obtain ⟨name, hname⟩ := hbuiltin p hp
    exact Builtin.instantiate_keepsKey hname
  have hplain : ∀ p ∈ both "types" "valibot", '/' ∉ p.output.toList := by
    simp only [both, List.forall_mem_cons, List.not_mem_nil, false_implies, implies_true, and_true]
    exact ⟨by decide, by decide⟩
  have hgenerate := generate_both "types" "valibot" (by decide +kernel)
  obtain ⟨paths, t, hwrite⟩ : ∃ paths t,
      disk.writeFiles "generated" [noTypes "types", noValidators "valibot"] bare = (.ok paths, t) := ⟨_, _, rfl⟩
  have hwritten := generated_written hgenerate hwrite
  exact ⟨_, paths, t, hbuiltin, hgenerate, hwrite, hwritten, hwritten.keys hkeeps, (hwritten.plain hkeeps hplain).2⟩

/-- Two outputs that differ as texts and not as paths: the types are written over. -/
theorem both_overwritten : ∃ produced paths t, generate {} (both "out" "./out") = .ok produced ∧
    disk.writeFiles "gen" (produced.map (·.file)) bare = (.ok paths, t) ∧
    ¬ ∀ f ∈ produced.map (·.file), t.readText (Path.join "gen" f.path) = .ok f.text := by
  have hgenerate := generate_both "out" "./out" (by decide +kernel)
  obtain ⟨paths, t, hwrite⟩ : ∃ paths t,
      disk.writeFiles "gen" [noTypes "out", noValidators "./out"] bare = (.ok paths, t) := ⟨_, _, rfl⟩
  refine ⟨_, paths, t, hgenerate, hwrite, fun hown => ?_⟩
  -- the point in the second output leads nowhere
  have hplace : placeOf t.here "gen" (noTypes "out") = placeOf t.here "gen" (noValidators "./out") := by
    rw [placeOf_eq_iff t.here "gen" ⟨by decide, by decide +kernel⟩ ⟨by decide, by decide +kernel⟩]
    decide +kernel
  have hsame := (written_of_writeFiles hwrite).own_iff.1 hown _ (by simp) _ (by simp) hplace
  have htypes : (noTypes "out").text = "" := rfl
  have hvalidators : (noValidators "./out").text = "import * as v from \"valibot\";\n\n" := rfl
  rw [htypes, hvalidators] at hsame
  exact absurd hsame (by decide)

end Typeforge
