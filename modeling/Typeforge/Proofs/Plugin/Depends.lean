import Typeforge.Plugin.Schedule
import Typeforge.Proofs.Walks

/-!
# What plugins depend on

Plugins name each other in their dependencies. Where no two plugins have one name, the places that `dependenciesOf`
looks up are those of the plugins that are named (`mem_dependenciesOf`); a name that no plugin has is passed over
(`dependenciesOf_active`).
-/

namespace Typeforge.Schedule

variable {ds : List Descriptor} {i j : Nat} {name : String}

/-! ### Names that occur twice -/

/-- What is found is the first name that occurs among those before it. -/
theorem repeated?_eq_some_iff {seen names : List String} : repeated? seen names = some name ↔
    ∃ before after, names = before ++ name :: after ∧ (name ∈ seen ∨ name ∈ before) ∧
      before.Nodup ∧ ∀ n ∈ before, n ∉ seen := by
  induction names generalizing seen with
  | nil => simp [repeated?]
  | cons n names ih =>
    simp only [repeated?, List.contains_iff_mem]
    split
    · rename_i hseen
      constructor
      · intro h
        cases h
        exact ⟨[], names, rfl, .inl hseen, List.nodup_nil, by simp⟩
      · rintro ⟨before, after, heq, -, -, hnew⟩
        cases before with
        | nil => cases heq; rfl
        | cons m before =>
          cases heq
          exact absurd hseen (hnew n List.mem_cons_self)
    · rename_i hseen
      rw [ih]
      constructor
      · rintro ⟨before, after, rfl, hname, hdistinct, hnew⟩
        refine ⟨n :: before, after, rfl, ?_, List.nodup_cons.2 ⟨fun hmem => ?_, hdistinct⟩, ?_⟩
        · simpa [or_assoc, or_left_comm] using hname
        · exact hnew n hmem List.mem_cons_self
        · simp only [List.mem_cons, forall_eq_or_imp]
          exact ⟨hseen, fun m hm hmem => hnew m hm (List.mem_cons_of_mem _ hmem)⟩
      · rintro ⟨before, after, heq, hname, hdistinct, hnew⟩
        cases before with
        | nil =>
          cases heq
          exact absurd hname (by simpa using hseen)
        | cons m before =>
          cases heq
          obtain ⟨hn, hdistinct⟩ := List.nodup_cons.1 hdistinct
          refine ⟨before, after, rfl, ?_, hdistinct, fun m hm hmem => ?_⟩
          · simpa [or_assoc, or_left_comm] using hname
          · rcases List.mem_cons.1 hmem with rfl | hmem
            · exact hn hm
            · exact hnew m (List.mem_cons_of_mem _ hm) hmem

theorem repeated?_eq_none_iff {seen names : List String} :
    repeated? seen names = none ↔ names.Nodup ∧ ∀ n ∈ names, n ∉ seen := by
  induction names generalizing seen with
  | nil => simp [repeated?]
  | cons n names ih =>
    simp only [repeated?, List.contains_iff_mem]
    split
    · rename_i hseen
      simp [hseen]
    · rename_i hseen
      rw [ih, List.nodup_cons]
      simp only [List.mem_cons, not_or, forall_eq_or_imp, hseen, not_false_eq_true, true_and]
      grind

theorem repeated?_nil {names : List String} : repeated? [] names = none ↔ names.Nodup := by
  simp [repeated?_eq_none_iff]

/-! ### The places of dependencies -/

/-- The plugin at place `i` names the plugin at place `j` among its dependencies. -/
def DependsOn (ds : List Descriptor) (i j : Nat) : Prop :=
  ∃ d e, ds[i]? = some d ∧ ds[j]? = some e ∧ e.name ∈ d.dependencies

/-- A plugin of the name `p` names `q` among its dependencies. -/
def Lists (ds : List Descriptor) (p q : String) : Prop := ∃ d ∈ ds, d.name = p ∧ q ∈ d.dependencies

theorem DependsOn.lt (h : DependsOn ds i j) : i < ds.length ∧ j < ds.length := by
  obtain ⟨d, e, hd, he, -⟩ := h
  exact ⟨(List.getElem?_eq_some_iff.1 hd).1, (List.getElem?_eq_some_iff.1 he).1⟩

theorem dependsOn_of_mem (h : j ∈ dependenciesOf ds i) : DependsOn ds i j := by
  unfold dependenciesOf at h
  split at h
  · rename_i d hd
    obtain ⟨name, hname, hj⟩ := List.mem_filterMap.1 h
    obtain ⟨hlt, he, -⟩ := List.findIdx?_eq_some_iff_getElem.1 hj
    exact ⟨d, ds[j], hd, List.getElem?_eq_getElem hlt, of_decide_eq_true he ▸ hname⟩
  · simp at h

/-- **The places that are looked up are those of the plugins that are named.** -/
theorem mem_dependenciesOf (hnames : (ds.map (·.name)).Nodup) : j ∈ dependenciesOf ds i ↔ DependsOn ds i j := by
  refine ⟨dependsOn_of_mem, ?_⟩
  rintro ⟨d, e, hd, he, hname⟩
  obtain ⟨hlt, rfl⟩ := List.getElem?_eq_some_iff.1 he
  unfold dependenciesOf
  rw [hd]
  refine List.mem_filterMap.2 ⟨_, hname, List.findIdx?_eq_some_iff_getElem.2 ⟨hlt, by simp, fun k hk heq => ?_⟩⟩
  -- an earlier plugin of the name would be a second one
  have hsame : (ds.map (·.name))[k]? = (ds.map (·.name))[j]? := by
    rw [List.getElem?_map, List.getElem?_map, List.getElem?_eq_getElem (hk.trans hlt), List.getElem?_eq_getElem hlt]
    simpa using heq
  exact absurd ((List.getElem?_inj (by simpa using hk.trans hlt) hnames).1 hsame) (Nat.ne_of_lt hk)

/-- The descriptor without the dependencies that are not among the names. -/
def active (names : List String) (d : Descriptor) : Descriptor :=
  { d with dependencies := d.dependencies.filter (· ∈ names) }

theorem map_name_active (names : List String) (ds : List Descriptor) :
    (ds.map (active names)).map (·.name) = ds.map (·.name) := by
  simp [active]

theorem dependenciesOf_active (ds : List Descriptor) (i : Nat) :
    dependenciesOf (ds.map (active (ds.map (·.name)))) i = dependenciesOf ds i := by
  have find (name : String) : (ds.map (active (ds.map (·.name)))).findIdx? (fun e => e.name = name)
      = ds.findIdx? fun e => e.name = name := by
    rw [List.findIdx?_map]
    rfl
  unfold dependenciesOf
  rw [List.getElem?_map]
  cases ds[i]? with
  | none => rfl
  | some d =>
    simp only [Option.map_some, find, active, List.filterMap_filter]
    refine List.filterMap_congr fun name _ => ?_
    split
    · rfl
    · rename_i hname
      refine (List.findIdx?_eq_none_iff.2 fun e he => ?_).symm
      simp only [decide_eq_true_eq, List.mem_map, not_exists, not_and] at hname
      simpa using hname e he

/-! ### Names of places -/

def namesAt (ds : List Descriptor) (js : List Nat) : List String := js.filterMap fun j => (ds[j]?).map (·.name)

/-- Where no two plugins have one name, the names around a circle make up a circle. -/
theorem circular_namesAt (hnames : (ds.map (·.name)).Nodup) {js : List Nat} (h : Circular (DependsOn ds) js)
    (hjs : ∀ j ∈ js, j < ds.length) : Circular (Lists ds) (namesAt ds js) := by
  have nameAt (j : Nat) (hj : j ∈ js) : (ds[j]?).map (·.name) = some (((ds[j]?).map (·.name)).getD "") := by
    rw [List.getElem?_eq_getElem (hjs j hj)]
    rfl
  have hmap : namesAt ds js = js.map fun j => ((ds[j]?).map (·.name)).getD "" := by
    rw [namesAt, List.filterMap_congr nameAt, ← List.filterMap_eq_map]
    rfl
  rw [hmap]
  refine h.map ?_ fun a ha b hb hab => ?_
  · rintro a b ⟨d, e, hd, he, hname⟩
    exact ⟨d, List.mem_of_getElem? hd, by simp [hd], by simpa [he] using hname⟩
  · have hsame : (ds.map (·.name))[a]? = (ds.map (·.name))[b]? := by
      rw [List.getElem?_map, List.getElem?_map, nameAt a ha, nameAt b hb, hab]
    exact (List.getElem?_inj (by simpa using hjs a ha) hnames).1 hsame

end Typeforge.Schedule
