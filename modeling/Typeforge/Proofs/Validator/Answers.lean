import Typeforge.Proofs.Validator.Asked
import Typeforge.Proofs.Naming.First

/-!
# Every name that is asked for is given

When a run succeeds, the references with names are those that `asked` lists, each named in its style
(`names_of_declareAll`). A step gives names only to references that are asked for, and when it is done those in
what it declared have theirs too (`Answers`); following one is by induction on the budget, and the run by
induction on its targets, of which the first under a reference is the one that counts.
-/

namespace Typeforge.Validator

open Schema Naming

/-- The names are made in the styles of their references, and what is followed is named as a definition. -/
structure Session.Styled (task : Task) (s : Session) : Prop where
  made : s.names.Made (styleOf task.options task.document)
  style : s.style = task.options.definitions.toStyle

/-- The reference is asked for, and so far all references in what it is declared from have names. -/
def Answered (task : Task) (names : Table) (r : String) : Prop :=
  r ∈ asked task.options task.document ∧
    ∃ n, leadsTo? task.options task.document r = some n ∧ holesIn task.options n ⊆ Keyed.keys names

/-- From `s` to `t` names were given to references that are asked for, and to all in what they are declared
from. -/
structure Answers (task : Task) (s t : Session) : Prop where
  names : Keyed.keys s.names ⊆ Keyed.keys t.names
  new : ∀ r ∈ Keyed.keys t.names, r ∈ Keyed.keys s.names ∨ Answered task t.names r

section Relation

variable {task : Task} {s t : Session}

theorem Answers.of_names_eq (h : t.names = s.names) : Answers task s t := by
  constructor
  · rw [h]
    exact List.Subset.refl _
  · rw [h]
    exact fun _ => .inl

theorem Answers.refl (s : Session) : Answers task s s := .of_names_eq rfl

theorem Answers.trans (s t u : Session) (h : Answers task s t) (h' : Answers task t u) : Answers task s u := by
  refine ⟨List.Subset.trans h.names h'.names, fun r hr => ?_⟩
  rcases h'.new r hr with hr | hr
  · exact (h.new r hr).imp id fun ⟨hasked, n, hn, hholes⟩ => ⟨hasked, n, hn, List.Subset.trans hholes h'.names⟩
  · exact .inr hr

end Relation

/-! ### One step -/

section Step

variable {task : Task} {inner : String → Compile Use} {r : String} {n : Node} {s t : Session}

/-- Where a step on a reference that is asked for does not fail, it gives a name to the reference. -/
def Feeds (task : Task) (follow : String → Compile Use) : Prop :=
  ∀ r ∈ asked task.options task.document, ∀ s u t, s.Styled task → Ends (follow r) s (.ok u) t →
    t.Styled task ∧ Answers task s t ∧ r ∈ Keyed.keys t.names

theorem mem_keys_of_nameOf? {names : Table} {name : String} (h : names.nameOf? r = some name) : r ∈ Keyed.keys names :=
  List.mem_map_of_mem (Keyed.mem_of_get? h)

theorem feeds_declareWith {name : String} {style : Style} (hinner : Feeds task inner)
    (hnew : s.names.nameOf? r = none → r ∈ asked task.options task.document ∧
      leadsTo? task.options task.document r = some n ∧ style = styleOf task.options task.document r)
    (hs : s.Styled task) (h : Ends (declareWith task.options inner r n style) s (.ok name) t) :
    t.Styled task ∧ Answers task s t ∧ r ∈ Keyed.keys t.names := by
  cases declareResult_of_ends h with
  | named hr => exact ⟨hs, Answers.refl s, mem_keys_of_nameOf? hr⟩
  | @declared uses u hr hu =>
    obtain ⟨hasked, hlead, rfl⟩ := hnew hr
    have hentered : ((s.naming r (styleOf task.options task.document r)).entering r).Styled task :=
      ⟨by simpa using hs.made.next hr, by simpa using hs.style⟩
    obtain ⟨hstyled, hanswers, hholes⟩ := ends_mapM_ok (I := Session.Styled task) (R := Answers task)
      (P := fun s r' _ => r' ∈ Keyed.keys s.names) Answers.trans Answers.refl
      (fun _ _ _ _ _ ha hmem => ha.names hmem)
      (fun r' hr' s u t hs h => hinner r' (holesIn_asked hlead hr') s u t hs h) hentered hu
    have hholes : holesIn task.options n ⊆ Keyed.keys u.names := by
      intro r' hr'
      obtain ⟨i, hi, rfl⟩ := List.getElem_of_mem hr'
      exact hholes.get hi (hholes.length_eq ▸ hi)
    have hself : r ∈ Keyed.keys u.names := hanswers.names (by rw [Session.keys_entered]; simp)
    refine ⟨⟨by simpa using hstyled.made, by simpa using hstyled.style⟩, ⟨?_, ?_⟩, by simpa using hself⟩
    · intro r' hr'
      simpa using hanswers.names (by rw [Session.keys_entered]; exact List.mem_append_left _ hr')
    · simp only [Session.declaring_names, Session.leaving_names]
      intro r' hr'
      rcases hanswers.new r' hr' with hold | hnew
      · rw [Session.keys_entered, List.mem_append, List.mem_singleton] at hold
        refine hold.imp id ?_
        rintro rfl
        exact ⟨hasked, n, hlead, hholes⟩
      · exact .inr hnew

theorem feeds_followStep (hinner : Feeds task inner) : Feeds task (followStep task inner) := by
  intro r hasked s u t hs h
  cases followResult_of_ends h with
  | named hr =>
    refine ⟨⟨by simpa using hs.made, by simpa using hs.style⟩, .of_names_eq (by simp), ?_⟩
    simpa using mem_keys_of_nameOf? hr
  | found hr hn hu =>
    -- what leads somewhere is named as a definition
    have hstyle : s.style = styleOf task.options task.document r := hs.style.trans (styleOf_resolved hn).symm
    obtain ⟨hv, hanswers, hself⟩ :=
      feeds_declareWith hinner (fun _ => ⟨hasked, leadsTo?_resolved hn, hstyle⟩) hs hu
    refine ⟨⟨by simpa using hv.made, by simpa using hv.style⟩, ?_, by simpa using hself⟩
    exact hanswers.trans _ _ _ (.of_names_eq (by simp))

theorem feeds_follow (budget : Nat) : Feeds task (follow task budget) := by
  induction budget with
  | zero =>
    intro r _ s u t _ h
    cases (ends_throw.1 h).1
  | succ budget ih => exact feeds_followStep ih

end Step

/-! ### The run over the targets -/

section Run

variable {task : Task} {s t : Session} {x : Target}

/-- **A run over the targets**, or over the first of them. A target that finds its reference without a name is what
is declared first under it, since all before it have left their references with names. -/
theorem ends_targets {I : Session → Prop} {before after : List Target}
    (hall : targets task.options task.document = before ++ after)
    (step : ∀ x s t, I s → (s.names.nameOf? x.reference = none →
        targetOf? task.options task.document x.reference = some x) → Ends (declareTarget task x) s (.ok ()) t →
      I t ∧ Keyed.keys s.names ⊆ Keyed.keys t.names ∧ x.reference ∈ Keyed.keys t.names)
    (hs : I s) (h : Ends (before.forM (declareTarget task)) s (.ok ()) t) :
    I t ∧ ∀ x ∈ before, x.reference ∈ Keyed.keys t.names := by
  -- the rest of the run, when all before it have names
  suffices rest : ∀ named rest, before = named ++ rest → ∀ s, I s →
      (∀ x ∈ named, x.reference ∈ Keyed.keys s.names) → Ends (rest.forM (declareTarget task)) s (.ok ()) t →
      I t ∧ ∀ x ∈ before, x.reference ∈ Keyed.keys t.names from
    rest [] _ rfl s hs (by simp) h
  intro named rest hbefore s hs hnamed h
  induction rest generalizing named s with
  | nil =>
    obtain ⟨-, rfl⟩ := ends_pure.1 h
    rw [hbefore, List.append_nil]
    exact ⟨hs, hnamed⟩
  | cons x rest ih =>
    obtain ⟨⟨⟩, u, hx, hrest⟩ := ends_bind_ok.1 h
    have hfirst (hr : s.names.nameOf? x.reference = none) :
        targetOf? task.options task.document x.reference = some x := by
      have hnone : named.find? (fun y => y.reference = x.reference) = none := by
        refine List.find?_eq_none.2 fun y hy heq => ?_
        exact Table.nameOf?_eq_none_iff.1 hr (of_decide_eq_true heq ▸ hnamed y hy)
      rw [targetOf?, hall, hbefore, List.append_assoc, List.find?_append, hnone]
      simp
    obtain ⟨hu, hkeys, hself⟩ := step x s u hs hfirst hx
    refine ih (named ++ [x]) (by simp [hbefore]) u hu (fun y hy => ?_) hrest
    rcases List.mem_append.1 hy with hy | hy
    · exact hkeys (hnamed y hy)
    · exact List.mem_singleton.1 hy ▸ hself

theorem feeds_declareTarget (hfirst : s.names.nameOf? x.reference = none →
      targetOf? task.options task.document x.reference = some x)
    (hs : s.Styled task) (h : Ends (declareTarget task x) s (.ok ()) t) :
    t.Styled task ∧ Answers task s t ∧ x.reference ∈ Keyed.keys t.names := by
  obtain ⟨name, u, hu, rfl⟩ := ends_declareTarget_ok h
  have hnew (hr : s.names.nameOf? x.reference = none) : x.reference ∈ asked task.options task.document ∧
      leadsTo? task.options task.document x.reference = some x.node ∧
      x.style = styleOf task.options task.document x.reference := by
    have hx := hfirst hr
    exact ⟨mem_asked.2 ⟨x, hx, .inl rfl⟩, by simp [leadsTo?, hx], by simp [styleOf, hx]⟩
  obtain ⟨hstyled, hanswers, hself⟩ :=
    feeds_declareWith (feeds_follow _) hnew (s := s.alone task.options.definitions.toStyle) ⟨hs.made, rfl⟩ hu
  exact ⟨⟨hstyled.made, hs.style⟩, ⟨hanswers.names, hanswers.new⟩, hself⟩

/-- When the first of the targets are declared, each reference with a name is asked for, and so far all references in
what it is declared from have names. -/
theorem answered_targets {options : Options} {d : Document} {before after : List Target}
    (hall : targets options d = before ++ after)
    (h : Ends (before.forM (declareTarget ⟨d, options⟩)) { style := options.definitions.toStyle } (.ok ()) t) :
    t.names.Made (styleOf options d) ∧ (∀ r ∈ Keyed.keys t.names, Answered ⟨d, options⟩ t.names r) ∧
      ∀ x ∈ before, x.reference ∈ Keyed.keys t.names := by
  obtain ⟨⟨ht, hanswers⟩, hnamed⟩ := ends_targets
    (I := fun t => t.Styled ⟨d, options⟩ ∧ Answers ⟨d, options⟩ { style := options.definitions.toStyle } t) hall
    (fun x s t hs hfirst h => by
      obtain ⟨ht, hanswers, hself⟩ := feeds_declareTarget hfirst hs.1 h
      exact ⟨⟨ht, hs.2.trans _ _ _ hanswers⟩, hanswers.names, hself⟩)
    ⟨⟨.nil, rfl⟩, Answers.refl _⟩ h
  exact ⟨ht.made, fun r hr => (hanswers.new r hr).resolve_left (by simp [Keyed.keys]), hnamed⟩

/-- **The references with names are those that are asked for**, each named in its style. -/
theorem names_of_declareAll {options : Options} {d : Document}
    (h : Ends (declareAll ⟨d, options⟩) { style := options.definitions.toStyle } (.ok ()) t) :
    t.names.Made (styleOf options d) ∧ ∀ r, r ∈ Keyed.keys t.names ↔ r ∈ asked options d := by
  rw [declareAll_eq] at h
  obtain ⟨hmade, hanswered, hnamed⟩ := answered_targets (List.append_nil _).symm h
  refine ⟨hmade, fun r => ⟨fun hr => (hanswered r hr).1, fun hr => ?_⟩⟩
  obtain ⟨x, hx, hr⟩ := mem_asked.1 hr
  have hself := hnamed x (targetOf?_mem hx).1
  rcases hr with rfl | hr
  · exact hself
  · obtain ⟨-, n, hn, hholes⟩ := hanswered _ hself
    have hnode : n = x.node := by
      rw [leadsTo?, hx] at hn
      exact (Option.some.inj hn).symm
    exact hholes (hnode ▸ hr)

end Run

end Typeforge.Validator
