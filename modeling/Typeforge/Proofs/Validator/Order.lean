import Typeforge.Proofs.Validator.Growth

/-!
# Declared before it is used

A name is given out before its constant is compiled, and constants are added in the middle of compiling
others. What ties the two together is `Session.Sound`: a name that is given out and not declared yet is the
name of a reference that is being followed. So a use that is not lazy is of a constant that stands already,
and a lazy use of one that is still to come, the constant itself included.

* `Sound.entered`, `Sound.declaring`: what the invariant says before and after a reference is followed;
* `follows_follow`: following keeps it, by induction on the budget;
* `settled_declareAll`: it holds when all that a document has declared is declared.
-/

namespace Typeforge.Validator

open Schema Naming Sketch Code

/-! ### Constants in order -/

/-- Each constant uses names that are taken, and uses a name at once just if it is declared before. -/
def InOrder (taken : List String) (ds : List Declaration) : Prop :=
  ∀ i d, ds[i]? = some d → ∀ u ∈ d.validator.uses,
    u.name ∈ taken ∧ (u.postponed = false ↔ u.name ∈ (ds.take i).map (·.name))

section InOrder

variable {taken : List String} {ds : List Declaration} {d : Declaration}

theorem InOrder.mono {taken' : List String} (h : InOrder taken ds) (hsub : taken ⊆ taken') : InOrder taken' ds :=
  fun i d hd u hu => (h i d hd u hu).imp (fun h => hsub h) id

theorem InOrder.append (h : InOrder taken ds) (hd : ∀ u ∈ d.validator.uses,
    u.name ∈ taken ∧ (u.postponed = false ↔ u.name ∈ ds.map (·.name))) : InOrder taken (ds ++ [d]) := by
  intro i d' hi u hu
  rcases Nat.lt_trichotomy i ds.length with hlt | rfl | hgt
  · rw [List.getElem?_append_left hlt] at hi
    rw [List.take_append_of_le_length (Nat.le_of_lt hlt)]
    exact h i d' hi u hu
  · rw [List.getElem?_append_right (Nat.le_refl _), Nat.sub_self, List.getElem?_cons_zero, Option.some.injEq] at hi
    subst hi
    rw [List.take_left]
    exact hd u hu
  · rw [List.getElem?_eq_none (by simp; omega)] at hi
    cases hi

end InOrder

/-! ### The invariant -/

namespace Session

def declared (s : Session) : List String := s.declarations.map (·.name)

section Declared

variable (s t : Session) (r : String)

@[simp] theorem declared_naming (style : Style) : (s.naming r style).declared = s.declared := rfl

@[simp] theorem declared_entering : (s.entering r).declared = s.declared := by simp [declared]

@[simp] theorem declared_leaving : (s.leaving r t).declared = t.declared := by simp [declared]

@[simp] theorem declared_declaring (d : Declaration) : (s.declaring d).declared = s.declared ++ [d.name] := by
  simp [declared]

end Declared

/-- What is given out and not declared is being followed, and the constants are in order. -/
structure Sound (s : Session) : Prop where
  names : s.names.Distinct
  once : s.declared.Nodup
  named : s.declared ⊆ s.names.taken
  followed : s.following ⊆ Keyed.keys s.names
  declared_iff : ∀ r name, (r, name) ∈ s.names → (name ∈ s.declared ↔ r ∉ s.following)
  ordered : InOrder s.names.taken s.declarations
  written : ∀ d ∈ s.declarations, d.validator.Within fun _ => True

/-- The use is of a name that is given out, and is lazy just if its reference is being followed. -/
def Fits (s : Session) (u : Use) : Prop := ∃ r, (r, u.name) ∈ s.names ∧ (u.postponed = true ↔ r ∈ s.following)

section Sound

variable {s t u : Session} {r : String} {style : Style} {allowed : String → Prop}

theorem Fits.grows {v : Use} (h : s.Fits v) (hg : Grows allowed s t) : t.Fits v := by
  obtain ⟨ns, ds, hg⟩ := hg
  obtain ⟨r, hr, hp⟩ := h
  exact ⟨r, hg.names ▸ List.mem_append_left _ hr, by rw [hp, hg.following]⟩

/-- The invariant is about the names, the declarations and what is being followed. -/
theorem Sound.congr (h : s.Sound) (hn : t.names = s.names) (hd : t.declarations = s.declarations)
    (hf : t.following = s.following) : t.Sound := by
  obtain ⟨names, declarations, following, postponed, style⟩ := t
  cases hn
  cases hd
  cases hf
  exact ⟨h.names, h.once, h.named, h.followed, h.declared_iff, h.ordered, h.written⟩

theorem Sound.marked (h : s.Sound) (p : Bool) : (s.marked p).Sound := h.congr (by simp) (by simp) (by simp)

theorem Sound.not_mem_following (h : s.Sound) (hr : s.names.nameOf? r = none) : r ∉ s.following :=
  fun hmem => Table.nameOf?_eq_none_iff.1 hr (h.followed hmem)

/-- The invariant holds when a reference has got its name and is going to be followed. -/
theorem Sound.entered (h : s.Sound) (hr : s.names.nameOf? r = none) : ((s.naming r style).entering r).Sound := by
  have hfollowing : ((s.naming r style).entering r).following = r :: s.following := by
    have := h.not_mem_following hr
    simp [entering, this]
  have hnew : s.names.nextName r style ∉ s.declared := fun hmem => Table.nextName_not_mem (h.named hmem)
  have htaken : s.names.taken ⊆ ((s.naming r style).entering r).names.taken := by
    simp [Table.taken]
  refine ⟨by simpa using h.names.append_next hr, by simpa using h.once, ?_, ?_, ?_, ?_, by simpa using h.written⟩
  · exact List.Subset.trans (by simpa using h.named) htaken
  · rw [hfollowing, entering_names, naming_names, Keyed.keys, List.map_append]
    exact List.cons_subset.2 ⟨by simp, List.subset_append_of_subset_left _ h.followed⟩
  · rw [hfollowing]
    intro r' name hmem
    simp only [entering_names, naming_names, List.mem_append, List.mem_singleton] at hmem
    simp only [declared_entering, declared_naming]
    rcases hmem with hmem | hmem
    · have hne : r' ≠ r := by
        rintro rfl
        exact Keyed.get?_ne_none_of_mem hmem hr
      rw [List.mem_cons, not_or]
      exact (h.declared_iff r' name hmem).trans ⟨fun h => ⟨hne, h⟩, And.right⟩
    · cases hmem
      simpa using hnew
  · exact InOrder.mono (by simpa using h.ordered) htaken

/-- The invariant holds again when the reference was followed and its constant is added. -/
theorem Sound.declaring {d : Declaration} (hs : s.Sound) (hr : s.names.nameOf? r = none)
    (hg : Grows allowed ((s.naming r style).entering r) u) (h : u.Sound)
    (hname : d.name = s.names.nextName r style) (hwithin : d.validator.Within fun _ => True)
    (huses : ∀ v ∈ d.validator.uses, u.Fits v) : ((s.leaving r u).declaring d).Sound := by
  have hnot := hs.not_mem_following hr
  obtain ⟨hfollowing, hmem⟩ : u.following = r :: s.following ∧ (r, d.name) ∈ u.names := by
    obtain ⟨ns, ds, hg⟩ := hg
    refine ⟨by simpa [entering, hnot] using hg.following, ?_⟩
    rw [hg.names, entering_names, naming_names, hname]
    simp
  have hleft : (s.leaving r u).following = s.following := by simp [leaving, hnot, hfollowing]
  have hnew : d.name ∉ u.declared := fun hdecl => by
    have := (h.declared_iff r d.name hmem).1 hdecl
    simp [hfollowing] at this
  refine ⟨by simpa using h.names, ?_, ?_, ?_, ?_, ?_, ?_⟩
  · rw [declared_declaring, declared_leaving]
    exact List.nodup_append.2 ⟨h.once, by simp, fun a ha b hb hab => hnew (List.mem_singleton.1 hb ▸ hab ▸ ha)⟩
  · rw [declared_declaring, declared_leaving, declaring_names, leaving_names]
    exact List.append_subset.2 ⟨h.named, List.cons_subset.2 ⟨Table.mem_taken hmem, List.nil_subset _⟩⟩
  · rw [declaring_following, hleft, declaring_names, leaving_names]
    exact fun r' hr' => h.followed (hfollowing ▸ List.mem_cons_of_mem _ hr')
  · rw [declaring_following, hleft, declaring_names, leaving_names, declared_declaring, declared_leaving]
    intro r' name hmem'
    rw [List.mem_append, List.mem_singleton, h.declared_iff r' name hmem', hfollowing, List.mem_cons, not_or]
    constructor
    · rintro (h' | rfl)
      · exact h'.2
      · exact h.names.reference_eq hmem' hmem ▸ hnot
    · intro h'
      by_cases heq : r' = r
      · subst heq
        exact .inr (Option.some.inj ((Keyed.get?_of_mem h.names.references hmem').symm.trans
          (Keyed.get?_of_mem h.names.references hmem)))
      · exact .inl ⟨heq, h'⟩
  · rw [declaring_names, leaving_names, declaring_declarations, leaving_declarations]
    refine h.ordered.append fun v hv => ?_
    obtain ⟨r', hr', hp⟩ := huses v hv
    refine ⟨Table.mem_taken hr', ?_⟩
    show v.postponed = false ↔ v.name ∈ u.declared
    rw [h.declared_iff r' v.name hr', ← hp, Bool.not_eq_true]
  · rw [declaring_declarations, leaving_declarations]
    intro d' hd'
    rcases List.mem_append.1 hd' with hd' | hd'
    · exact h.written d' hd'
    · exact List.mem_singleton.1 hd' ▸ hwithin

end Sound

end Session

/-! ### Steps that keep the invariant -/

section Steps

variable {task : Task} {inner : String → Compile Use} {r : String} {n : Node} {s t : Session}

/-- Where a step does not fail, the invariant still holds after it, and its use fits. -/
def Follows (follow : String → Compile Use) : Prop :=
  ∀ r s u t, s.Sound → Ends (follow r) s (.ok u) t → t.Sound ∧ t.Fits u

theorem sound_declareWith {name : String} {style : Style} (hinner : Follows inner)
    (hkeeps : ∀ r, Keeps (Grows fun _ => True) (inner r)) (hs : s.Sound)
    (h : Ends (declareWith task.options inner r n style) s (.ok name) t) : t.Sound ∧ t.names.nameOf? r = some name := by
  cases declareResult_of_ends h with
  | named hr => exact ⟨hs, hr⟩
  | declared hr hu =>
    -- each use fits when it is made, and still does when all the holes are filled
    obtain ⟨hsound, hgrows, hfits⟩ := ends_mapM_ok (I := Session.Sound) (P := fun s _ u => s.Fits u) Grows.trans
      Grows.refl (fun _ _ _ _ _ hg hf => hf.grows hg)
      (fun r' _ s u t hs h => ⟨(hinner r' s u t hs h).1, hkeeps r' s _ t h, (hinner r' s u t hs h).2⟩)
      (hs.entered hr) hu
    refine ⟨hs.declaring hr hgrows hsound rfl ?_ fun w hw => ?_, ?_⟩
    · exact (filled_meets _ n false _).within
    · rw [declarationOf, uses_pipe] at hw
      obtain ⟨i, hi, rfl⟩ := List.getElem_of_mem (usesOf_fillAll _ _ hw)
      exact hfits.get (hfits.length_eq ▸ hi) hi
    · have hnamed : ((s.naming r style).entering r).names.nameOf? r = some (s.names.nextName r style) := by
        rw [Session.entering_names, Session.nameOf?_naming hr]
      simpa using hgrows.nameOf? hnamed

theorem follows_followStep (hinner : Follows inner) (hkeeps : ∀ r, Keeps (Grows fun _ => True) (inner r)) :
    Follows (followStep task inner) := by
  intro r s u t hs h
  cases followResult_of_ends h with
  | named hr => exact ⟨hs.marked _, r, by simpa using Keyed.mem_of_get? hr, by simp⟩
  | found hr hn hu =>
    obtain ⟨hv, hname⟩ := sound_declareWith hinner hkeeps hs hu
    obtain ⟨ns, ds, hg⟩ := keeps_declareWith trivial (fun r _ => hkeeps r) _ _ _ hu
    refine ⟨hv.marked _, r, by simpa using Keyed.mem_of_get? hname, ?_⟩
    simp [hg.following]

/-- **Following keeps the invariant**, with any budget. -/
theorem follows_follow (budget : Nat) : Follows (follow task budget) := by
  induction budget with
  | zero =>
    intro r s u t _ h
    cases (ends_throw.1 h).1
  | succ budget ih => exact follows_followStep ih (keeps_follow_all budget)

/-- A session between two events: the invariant holds and nothing is being followed. -/
def Settled (s : Session) : Prop := s.Sound ∧ s.following = []

theorem Settled.mem_declared (h : Settled s) {name : String} (hname : name ∈ s.names.taken) : name ∈ s.declared := by
  obtain ⟨⟨r, _⟩, hr, rfl⟩ := List.mem_map.1 hname
  exact (h.1.declared_iff r _ hr).2 (by simp [h.2])

theorem settled_declareTarget {x : Target} (hs : Settled s) (h : Ends (declareTarget task x) s (.ok ()) t) :
    Settled t ∧ ∃ name, t.names.nameOf? x.reference = some name := by
  obtain ⟨name, u, hu, rfl⟩ := ends_declareTarget_ok h
  have halone : (s.alone task.options.definitions.toStyle).Sound := hs.1.congr rfl rfl hs.2.symm
  obtain ⟨hsound, hname⟩ := sound_declareWith (follows_follow _) (keeps_follow_all _) halone hu
  obtain ⟨ns, ds, hg⟩ := keeps_declareWith trivial (fun r _ => keeps_follow_all _ r) _ _ _ hu
  exact ⟨⟨hsound.congr rfl rfl (hs.2.trans hg.following.symm), hs.2⟩, name, hname⟩

theorem keeps_declareTarget_all (x : Target) : Keeps (Grows fun _ => True) (declareTarget task x) :=
  keeps_declareTarget trivial fun r _ => keeps_follow_all _ r

/-- **All that a document has declared is declared in order**, and each reference of it has a name. -/
theorem settled_declareAll (hs : Settled s) (h : Ends (declareAll task) s (.ok ()) t) :
    Settled t ∧ ∀ x ∈ targets task.options task.document, ∃ name, t.names.nameOf? x.reference = some name := by
  rw [declareAll_eq] at h
  obtain ⟨ht, -, hnamed⟩ := ends_forM_ok (I := Settled) (R := Grows fun _ => True)
    (P := fun s x => ∃ name, s.names.nameOf? x.reference = some name) Grows.trans Grows.refl
    (fun _ _ _ _ hg ⟨name, hname⟩ => ⟨name, hg.nameOf? hname⟩)
    (fun x _ s t hs h => ⟨(settled_declareTarget hs h).1, keeps_declareTarget_all x s _ t h,
      (settled_declareTarget hs h).2⟩) hs h
  exact ⟨ht, hnamed⟩

theorem settled_start (style : Style) : Settled { style } :=
  ⟨⟨Table.Distinct.nil, List.nodup_nil, by simp [Session.declared], by simp, by simp, by simp [InOrder], by simp⟩,
    rfl⟩

end Steps

end Typeforge.Validator
