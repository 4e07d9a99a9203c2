import Typeforge.Proofs.Validator.Answers
import Typeforge.Proofs.Validator.Order
import Mathlib.Data.List.Chain

/-!
# Where lazy uses come from

Compiling what one reference is declared from comes to other references (`Refers`). Those that are being followed
are a way along this relation, so a use of one of them closes a circle. `Session.Traced` says so, and says of each
constant which reference it was compiled for and how the references in it were answered (`Compiled`).

* `traces_follow`: following keeps it, by induction on the budget;
* `traced_declareAll`: it holds when all that a document has declared is declared.
-/

namespace Typeforge.Validator

open Schema Naming Sketch

/-! ### What a reference refers to -/

/-- Compiling what the reference `r` is declared from comes to the reference `r'`. -/
def Refers (options : Options) (d : Document) (r r' : String) : Prop :=
  ∃ n, leadsTo? options d r = some n ∧ r' ∈ holesIn options n

/-- It comes to it where it writes a validator, and not only among the items that an array drops. -/
def Writes (options : Options) (d : Document) (r r' : String) : Prop :=
  ∃ n, leadsTo? options d r = some n ∧ r' ∈ usesOf (outline options.metadata n false)

/-- The use `u` answers the reference `r'` in the constant `c` for the reference `r`, before which there are the
names `declared`. -/
structure Answer (task : Task) (names : Table) (declared : List String) (c : Declaration) (r r' : String) (u : Use) :
    Prop where
  named : (r', u.name) ∈ names
  first : u.postponed = false ↔ u.name ∈ declared
  back : u.postponed = true → Relation.ReflTransGen (Refers task.options task.document) r' r
  annotated : u.postponed = true → c.annotated = true

/-- The constant `c` is what the reference `r` was declared from, with the uses that answer the references in it. -/
structure Compiled (task : Task) (names : Table) (declared : List String) (c : Declaration) (r : String) (n : Node)
    (uses : List Use) : Prop where
  named : (r, c.name) ∈ names
  leads : leadsTo? task.options task.document r = some n
  validator : c.validator = .pipe (fillAll (outline task.options.metadata n false) uses)
  answered : List.Forall₂ (Answer task names declared c r) (holesIn task.options n) uses
  circle : c.annotated = true → ∃ r, Relation.TransGen (Refers task.options task.document) r r

/-! ### The invariant -/

/-- What is being followed is a way, some circle was closed if a use was lazy, and each constant is compiled from
what its reference is declared from. -/
structure Session.Traced (task : Task) (s : Session) : Prop where
  sound : s.Sound
  linked : s.following.IsChain fun r' r => Refers task.options task.document r r'
  circle : s.postponed = true → ∃ r, Relation.TransGen (Refers task.options task.document) r r
  compiled : ∀ i c, s.declarations[i]? = some c → ∃ r n uses,
    Compiled task s.names ((s.declarations.take i).map (·.name)) c r n uses

/-- The reference is the next one on the way: it is in what the innermost one is declared from. -/
def Session.Next (task : Task) (s : Session) (r : String) : Prop :=
  ∀ r₀ ∈ s.following.head?, Refers task.options task.document r₀ r

/-- From `s` to `t` names and declarations were added, and the mark of a lazy use stays. -/
def Later (s t : Session) : Prop := Grows (fun _ => True) s t ∧ (s.postponed = true → t.postponed = true)

/-- The use `u` of the reference `r`, met after the references in `way`: it is lazy just if `r` is one of them, and
then it marks the session. -/
structure Met (t : Session) (way : List String) (r : String) (u : Use) : Prop where
  named : (r, u.name) ∈ t.names
  lazy_iff : u.postponed = true ↔ r ∈ way
  marks : u.postponed = true → t.postponed = true

section Invariant

variable {task : Task} {s t : Session} {r r' name : String} {n : Node} {c : Declaration} {names : Table}
  {declared : List String} {u : Use} {uses : List Use}

theorem Later.refl (s : Session) : Later s s := ⟨Grows.refl s, id⟩

theorem Later.trans (s t u : Session) (h : Later s t) (h' : Later t u) : Later s u :=
  ⟨h.1.trans _ _ _ h'.1, fun hs => h'.2 (h.2 hs)⟩

theorem Later.mem_names (h : Later s t) {p : String × String} (hp : p ∈ s.names) : p ∈ t.names := by
  obtain ⟨⟨ns, ds, hg⟩, -⟩ := h
  exact hg.names ▸ List.mem_append_left _ hp

theorem Later.following (h : Later s t) : t.following = s.following := by
  obtain ⟨⟨ns, ds, hg⟩, -⟩ := h
  exact hg.following

theorem Met.later {way : List String} (h : Met s way r u) (hlater : Later s t) : Met t way r u :=
  ⟨hlater.mem_names h.named, h.lazy_iff, fun hlazy => hlater.2 (h.marks hlazy)⟩

theorem Compiled.mono {names' : Table} (h : Compiled task names declared c r n uses) (hsub : names ⊆ names') :
    Compiled task names' declared c r n uses :=
  { h with
    named := hsub h.named
    answered := h.answered.imp fun _ _ ha => { ha with named := hsub ha.named } }

theorem Session.Traced.leads (h : s.Traced task) (hr : r ∈ s.following) :
    ∃ r₀ ∈ s.following.head?, Relation.ReflTransGen (Refers task.options task.document) r r₀ := by
  match hf : s.following with
  | [] => simp [hf] at hr
  | r₀ :: outer =>
    refine ⟨r₀, rfl, ?_⟩
    exact h.linked.induction (fun r => Relation.ReflTransGen (Refers task.options task.document) r r₀) _
      (fun _ _ h h' => .head h h') (fun _ => by simp [hf, Relation.ReflTransGen.refl]) r hr

/-- The invariant does not look at the style. -/
theorem Session.Traced.congr (h : s.Traced task) (hn : t.names = s.names) (hd : t.declarations = s.declarations)
    (hf : t.following = s.following) (hp : t.postponed = true → ∃ r,
      Relation.TransGen (Refers task.options task.document) r r) : t.Traced task :=
  ⟨h.sound.congr hn hd hf, hf ▸ h.linked, hp, hn ▸ hd ▸ h.compiled⟩

/-- A use marks the session if its reference is on the way. -/
theorem Session.Traced.marked (h : s.Traced task) (hnext : s.Next task r) :
    (s.marked (s.following.contains r)).Traced task := by
  refine h.congr (by simp) (by simp) (by simp) fun hp => ?_
  rw [Session.marked_postponed, Bool.or_eq_true, List.contains_iff_mem] at hp
  rcases hp with hr | hp
  · obtain ⟨r₀, hr₀, hback⟩ := h.leads hr
    exact ⟨r, .tail' hback (hnext r₀ hr₀)⟩
  · exact h.circle hp

end Invariant

/-! ### Steps that keep the invariant -/

section Steps

variable {task : Task} {inner : String → Compile Use} {r name : String} {n : Node} {style : Style} {s t u : Session}
  {uses : List Use} {d : Document} {options : Options}

/-- Where following the next reference on the way does not fail, the invariant still holds after it. -/
def Traces (task : Task) (follow : String → Compile Use) : Prop :=
  ∀ r s u t, s.Traced task → s.Next task r → Ends (follow r) s (.ok u) t → t.Traced task ∧ Later s t ∧
    Met t s.following r u

theorem Session.Traced.entered (h : s.Traced task) (style : Style) (hr : s.names.nameOf? r = none)
    (hnext : s.Next task r) :
    ((s.naming r style).entering r).Traced task ∧ ((s.naming r style).entering r).following = r :: s.following := by
  have hfollowing : ((s.naming r style).entering r).following = r :: s.following := by
    simp [entering, h.sound.not_mem_following hr]
  refine ⟨⟨h.sound.entered hr, ?_, by simpa using h.circle, fun i c hc => ?_⟩, hfollowing⟩
  · rw [hfollowing]
    exact List.isChain_cons.2 ⟨hnext, h.linked⟩
  · simp only [entering_declarations, naming_declarations] at hc ⊢
    obtain ⟨r', n, uses, hcompiled⟩ := h.compiled i c hc
    exact ⟨r', n, uses, hcompiled.mono (by simp)⟩

theorem Session.Traced.compile (h : u.Traced task) (hfollowing : u.following = r :: s.following)
    (hname : (r, name) ∈ u.names) (hlead : leadsTo? task.options task.document r = some n)
    (huses : List.Forall₂ (Met u (r :: s.following)) (holesIn task.options n) uses) :
    Compiled task u.names u.declared (declarationOf task.options n name u.postponed uses) r n uses where
  named := hname
  leads := hlead
  validator := rfl
  circle := h.circle
  answered := by
    refine huses.imp fun r' v hv => ⟨hv.named, ?_, fun hlazy => ?_, hv.marks⟩
    · rw [h.sound.declared_iff r' v.name hv.named, hfollowing, ← hv.lazy_iff, Bool.not_eq_true]
    · obtain ⟨r₀, hr₀, hback⟩ := h.leads (hfollowing ▸ hv.lazy_iff.1 hlazy)
      rw [hfollowing] at hr₀
      cases hr₀
      exact hback

theorem Session.Traced.declaring {c : Declaration} (hs : s.Traced task) (h : u.Traced task)
    (hsound : ((s.leaving r u).declaring c).Sound) (hleft : (s.leaving r u).following = s.following)
    (hc : Compiled task u.names u.declared c r n uses) : ((s.leaving r u).declaring c).Traced task := by
  refine ⟨hsound, ?_, by simpa using h.circle, fun i c' hi => ?_⟩
  · rw [declaring_following, hleft]
    exact hs.linked
  · simp only [declaring_names, leaving_names, declaring_declarations, leaving_declarations] at hi ⊢
    rcases Nat.lt_or_ge i u.declarations.length with hlt | hge
    · rw [List.getElem?_append_left hlt] at hi
      rw [List.take_append_of_le_length (Nat.le_of_lt hlt)]
      exact h.compiled i c' hi
    · obtain ⟨rfl, rfl⟩ : i = u.declarations.length ∧ c = c' := by
        rw [List.getElem?_append_right hge, List.getElem?_singleton] at hi
        split at hi
        · exact ⟨by omega, Option.some.inj hi⟩
        · cases hi
      rw [List.take_left]
      exact ⟨r, n, uses, hc⟩

theorem traced_holes {budget : Nat} {outer : List String} (hinner : Traces task (follow task budget))
    (hs : s.Traced task) (hway : s.following = r :: outer) (hlead : leadsTo? task.options task.document r = some n)
    (h : Ends ((holesIn task.options n).mapM (follow task budget)) s (.ok uses) t) :
    t.Traced task ∧ Later s t ∧ List.Forall₂ (Met t (r :: outer)) (holesIn task.options n) uses := by
  obtain ⟨⟨ht, -⟩, hlater, hmet⟩ := ends_mapM_ok (I := fun u => u.Traced task ∧ u.following = r :: outer) (R := Later)
    (P := fun u => Met u (r :: outer)) Later.trans Later.refl (fun _ _ _ _ _ hlater hv => hv.later hlater)
    (fun r' hr' u v u' ⟨hu, hway⟩ h => by
      have hnext : u.Next task r' := fun r₀ hr₀ => by
        rw [hway] at hr₀
        cases hr₀
        exact ⟨n, hlead, hr'⟩
      obtain ⟨hu', hlater, hv⟩ := hinner r' u v u' hu hnext h
      exact ⟨⟨hu', hlater.following.trans hway⟩, hlater, hway ▸ hv⟩)
    ⟨hs, hway⟩ h
  exact ⟨ht, hlater, hmet⟩

theorem traced_declareWith {budget : Nat} (hinner : Traces task (follow task budget)) (hs : s.Traced task)
    (hnew : s.names.nameOf? r = none → leadsTo? task.options task.document r = some n ∧ s.Next task r)
    (h : Ends (declareWith task.options (follow task budget) r n style) s (.ok name) t) :
    t.Traced task ∧ Later s t ∧ (r, name) ∈ t.names := by
  obtain ⟨hsound, -⟩ := sound_declareWith (follows_follow budget) (keeps_follow_all budget) hs.sound h
  have hgrows : Grows (fun _ => True) s t := keeps_declareWith trivial (fun r _ => keeps_follow_all budget r) _ _ _ h
  cases declareResult_of_ends h with
  | named hr => exact ⟨hs, Later.refl s, Keyed.mem_of_get? hr⟩
  | @declared uses u hr hu =>
    obtain ⟨hlead, hnext⟩ := hnew hr
    obtain ⟨hentered, hway⟩ := hs.entered style hr hnext
    obtain ⟨hu, hlater, hmet⟩ := traced_holes hinner hentered hway hlead hu
    have hfollowing : u.following = r :: s.following := hlater.following.trans hway
    have hself : (r, s.names.nextName r style) ∈ u.names := hlater.mem_names (by simp)
    have hcompiled := hu.compile hfollowing hself hlead hmet
    exact ⟨hs.declaring hu hsound (Session.leaving_following hlater.following) hcompiled,
      ⟨hgrows, by simpa using hlater.2⟩, by simpa using hself⟩

theorem traces_followStep {budget : Nat} (hinner : Traces task (follow task budget)) :
    Traces task (followStep task (follow task budget)) := by
  intro r s u t hs hnext h
  have hgrows : Grows (fun _ => True) s t := keeps_follow_all (budget + 1) r _ _ _ h
  cases followResult_of_ends h with
  | named hr =>
    refine ⟨hs.marked hnext, ⟨hgrows, ?_⟩, by simpa using Keyed.mem_of_get? hr, by simp, ?_⟩
    · simp +contextual
    · simp +contextual
  | found hr hn hu =>
    -- a reference without a name is not on the way, so its use is not lazy
    have hnot := hs.sound.not_mem_following hr
    obtain ⟨ht, hlater, hname⟩ := traced_declareWith hinner hs (fun _ => ⟨leadsTo?_resolved hn, hnext⟩) hu
    have hp : s.following.contains r = false := by simpa using hnot
    rw [hp] at *
    exact ⟨ht, hlater, hname, by simpa using hnot, by simp⟩

/-- **Following keeps the invariant**, with any budget. -/
theorem traces_follow (budget : Nat) : Traces task (follow task budget) := by
  induction budget with
  | zero =>
    intro r s u t _ _ h
    cases (ends_throw.1 h).1
  | succ budget ih => exact traces_followStep ih

theorem traced_declareTarget {x : Target} (hs : s.Traced task ∧ s.following = [])
    (hfirst : s.names.nameOf? x.reference = none → targetOf? task.options task.document x.reference = some x)
    (h : Ends (declareTarget task x) s (.ok ()) t) : (t.Traced task ∧ t.following = []) ∧
      Keyed.keys s.names ⊆ Keyed.keys t.names ∧ x.reference ∈ Keyed.keys t.names := by
  obtain ⟨name, u, hu, rfl⟩ := ends_declareTarget_ok h
  have halone : (s.alone task.options.definitions.toStyle).Traced task := hs.1.congr rfl rfl hs.2.symm nofun
  have hnew (hr : s.names.nameOf? x.reference = none) : leadsTo? task.options task.document x.reference = some x.node ∧
      (s.alone task.options.definitions.toStyle).Next task x.reference :=
    ⟨by simp [leadsTo?, hfirst hr], nofun⟩
  obtain ⟨ht, hlater, hname⟩ := traced_declareWith (traces_follow _) halone hnew hu
  refine ⟨⟨ht.congr rfl rfl (hs.2.trans hlater.following.symm) hs.1.circle, hs.2⟩, fun r hr => ?_,
    List.mem_map_of_mem hname⟩
  obtain ⟨p, hp, rfl⟩ := List.mem_map.1 hr
  exact List.mem_map_of_mem (hlater.mem_names hp)

/-- **All that a document has declared is compiled** from what its references are declared from. -/
theorem traced_declareAll (h : Ends (declareAll ⟨d, options⟩) { style := options.definitions.toStyle } (.ok ()) t) :
    t.Traced ⟨d, options⟩ := by
  rw [declareAll_eq] at h
  have hstart : ({ style := options.definitions.toStyle } : Session).Traced ⟨d, options⟩ :=
    ⟨(settled_start _).1, .nil, nofun, by simp⟩
  obtain ⟨⟨ht, -⟩, -⟩ := ends_targets (List.append_nil _).symm
    (fun x s t hs hfirst h => traced_declareTarget hs hfirst h) ⟨hstart, rfl⟩ h
  exact ht

end Steps

end Typeforge.Validator
