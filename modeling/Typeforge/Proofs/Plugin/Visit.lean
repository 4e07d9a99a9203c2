import Typeforge.Proofs.Plugin.Depends
import Typeforge.Proofs.Steps

/-!
# The walk through the plugins

What a visit is given and what it gives are both `Sorted`, the way that it has come is a `Way`, and the places
of both are all there are: what is not done and not on the way is free.

* `visit_ok`: a visit that does not fail keeps what is done sorted, and has its own place done;
* `visit_error`: a visit fails with the names on a circle of dependencies;
* `visitOr_eq`: no more calls are open at once than there are free places;
* `visit_congr`: a visit looks at the names of the plugins and at what each depends on.
-/

namespace Typeforge.Schedule

variable {ds es : List Descriptor} {free path order result : List Nat} {i j budget : Nat}
  {gone : Except Failure (List Nat)}

/-! ### What is done -/

/-- No place comes twice, and what a place depends on comes before it. -/
structure Sorted (ds : List Descriptor) (order : List Nat) : Prop where
  distinct : order.Nodup
  closed : ∀ pre i post, order = pre ++ i :: post → dependenciesOf ds i ⊆ pre

theorem sorted_nil : Sorted ds [] := ⟨List.nodup_nil, by simp⟩

theorem Sorted.append (h : Sorted ds order) (hnew : i ∉ order) (hdeps : dependenciesOf ds i ⊆ order) :
    Sorted ds (order ++ [i]) where
  distinct := by simpa [List.nodup_append] using ⟨h.distinct, fun j hj heq => hnew (heq ▸ hj)⟩
  closed := by
    intro pre j post heq
    rcases List.eq_nil_or_concat post with rfl | ⟨post, k, rfl⟩
    · obtain ⟨rfl, hj⟩ := List.append_inj' heq rfl
      cases hj
      exact hdeps
    · have heq' : order ++ [i] = (pre ++ j :: post) ++ [k] := by simpa using heq
      exact h.closed pre j post (List.append_inj' heq' rfl).1

theorem Sorted.idxOf_lt (h : Sorted ds order) (hi : i ∈ order) (hj : j ∈ dependenciesOf ds i) :
    order.idxOf j < order.idxOf i := by
  obtain ⟨pre, post, rfl, hnot⟩ := List.eq_append_cons_of_mem hi
  have hpre := h.closed pre i post rfl hj
  calc (pre ++ i :: post).idxOf j = pre.idxOf j := List.idxOf_append_of_mem hpre
    _ < pre.length := List.idxOf_lt_length_iff.2 hpre
    _ = (pre ++ i :: post).idxOf i := by rw [List.idxOf_append_of_notMem hnot, List.idxOf_cons_self, Nat.add_zero]

/-- Where a visit does not fail, all that is done is still done, all that is new was free, and the place is done. -/
theorem visit_ok (hfree : free.Nodup) (hs : Sorted ds order) (h : visit ds free path order i = .ok result) :
    Sorted ds result ∧ (order <+: result ∧ ∀ j ∈ result, j ∈ order ∨ j ∈ free) ∧ i ∈ result := by
  fun_induction visit ds free path order i generalizing result with
  | case1 free path order i hdone =>
    cases h
    exact ⟨hs, ⟨List.prefix_rfl, fun j => .inl⟩, by simpa using hdone⟩
  | case2 free path order i hnew hi ih =>
    have hnew : i ∉ order := by simpa using hnew
    cases hfold : (dependenciesOf ds i).foldlM (fun order d => visit ds (free.erase i) (i :: path) order d) order with
    | error e =>
      rw [hfold] at h
      cases h
    | ok inner =>
      rw [hfold] at h
      cases h
      obtain ⟨hsorted, ⟨hlonger, hinside⟩, hall⟩ := foldlM_ok
        (R := fun order result => order <+: result ∧ ∀ j ∈ result, j ∈ order ∨ j ∈ free.erase i)
        (P := fun order d => d ∈ order)
        (fun _ => ⟨List.prefix_rfl, fun _ => .inl⟩)
        (fun _ _ _ h h' => ⟨h.1.trans h'.1, fun j hj => (h'.2 j hj).elim (h.2 j) .inr⟩)
        (fun _ _ _ h hmem => h.1.subset hmem)
        (fun d _ order result hs h => ih order d (hfree.erase i) hs h) hs hfold
      have hnot : i ∉ inner := fun hmem => (hinside i hmem).elim hnew hfree.not_mem_erase
      refine ⟨hsorted.append hnot hall, ⟨hlonger.trans (List.prefix_append _ _), fun j hj => ?_⟩, by simp⟩
      rcases List.mem_append.1 hj with hj | hj
      · exact (hinside j hj).imp id List.mem_of_mem_erase
      · exact .inr (List.mem_singleton.1 hj ▸ hi)
  | case3 free path order i hnew hi => cases h

theorem visit_of_subset (hi : i ∈ free) (hnew : i ∉ order) (hdeps : dependenciesOf ds i ⊆ order) :
    visit ds free path order i = .ok (order ++ [i]) := by
  have hdone (js : List Nat) (hjs : js ⊆ order) :
      js.foldlM (fun order d => visit ds (free.erase i) (i :: path) order d) order = .ok order := by
    induction js with
    | nil => rfl
    | cons j js ih =>
      obtain ⟨hj, hjs⟩ := List.cons_subset.1 hjs
      rw [List.foldlM_cons, visit, if_pos (by simpa using hj)]
      exact ih hjs
  rw [visit, if_neg (by simpa using hnew), dif_pos hi, hdone _ hdeps]
  rfl

/-! ### The way to a place -/

/-- The path, innermost place first, leads to `i`, each place on it depending on the next one in. -/
structure Way (ds : List Descriptor) (free path : List Nat) (i : Nat) : Prop where
  free_iff : ∀ j, j ∈ free ↔ j < ds.length ∧ j ∉ path
  distinct : free.Nodup
  simple : path.Nodup
  linked : (i :: path).IsChain fun j i => DependsOn ds i j
  inside : ∀ j ∈ i :: path, j < ds.length

theorem Way.start (hi : i < ds.length) : Way ds (List.range ds.length) [] i where
  free_iff := by simp
  distinct := List.nodup_range
  simple := List.nodup_nil
  linked := .singleton i
  inside := by simpa using hi

theorem Way.step (h : Way ds free path i) (hi : i ∈ free) (hj : j ∈ dependenciesOf ds i) :
    Way ds (free.erase i) (i :: path) j where
  free_iff := by
    intro k
    rw [h.distinct.mem_erase_iff, h.free_iff, List.mem_cons]
    tauto
  distinct := h.distinct.erase i
  simple := List.nodup_cons.2 ⟨((h.free_iff i).1 hi).2, h.simple⟩
  linked := List.isChain_cons_cons.2 ⟨dependsOn_of_mem hj, h.linked⟩
  inside := List.forall_mem_cons.2 ⟨(dependsOn_of_mem hj).lt.2, h.inside⟩

theorem Way.mem_path (h : Way ds free path i) (hi : i ∉ free) : i ∈ path := by
  by_contra hnot
  exact hi ((h.free_iff i).2 ⟨h.inside i List.mem_cons_self, hnot⟩)

theorem Way.circular (h : Way ds free path i) (hi : i ∈ path) :
    ∃ js, circle ds path i = namesAt ds js ∧ Circular (DependsOn ds) js ∧ ∀ j ∈ js, j < ds.length := by
  obtain ⟨inner, outer, rfl, hnot⟩ := List.eq_append_cons_of_mem hi
  have hinner : (inner ++ i :: outer).takeWhile (· ≠ i) = inner := by
    have hne : ∀ j ∈ inner, decide (j ≠ i) := fun j hj => decide_eq_true fun heq => hnot (heq ▸ hj)
    rw [List.takeWhile_append_of_pos hne, List.takeWhile_cons_of_neg (by simp), List.append_nil]
  have hlinked : (i :: inner ++ [i]).IsChain fun j i => DependsOn ds i j := by
    refine h.linked.prefix ⟨outer, by simp⟩
  refine ⟨i :: inner.reverse ++ [i], by rw [circle, hinner, namesAt], ⟨⟨by simp, by rw [List.getLast?_concat]; rfl, ?_⟩, ?_⟩,
    fun j hj => ?_⟩
  · simpa using List.isChain_reverse.2 hlinked
  · rw [List.dropLast_concat]
    refine List.nodup_cons.2 ⟨by simpa using hnot, List.nodup_reverse.2 ?_⟩
    exact (List.nodup_append.1 h.simple).1
  · have hmem : j ∈ i :: (inner ++ i :: outer) := by
      simp only [List.cons_append, List.mem_cons, List.mem_append, List.mem_reverse, List.not_mem_nil, or_false] at hj ⊢
      tauto
    exact h.inside j hmem

/-- The failure tells the names on a circle of places that depend on each other. -/
def TellsCircle (ds : List Descriptor) (e : Failure) : Prop :=
  ∃ js, e = .pluginCycle (namesAt ds js) ∧ Circular (DependsOn ds) js ∧ ∀ j ∈ js, j < ds.length

/-- **A visit fails with the names on a circle.** -/
theorem visit_error {e : Failure} (hway : Way ds free path i) (h : visit ds free path order i = .error e) :
    TellsCircle ds e := by
  fun_induction visit ds free path order i generalizing e with
  | case1 free path order i hdone => cases h
  | case2 free path order i hnew hi ih =>
    cases hfold : (dependenciesOf ds i).foldlM (fun order d => visit ds (free.erase i) (i :: path) order d) order with
    | error e' =>
      rw [hfold] at h
      cases h
      exact foldlM_error (fun j hj order e h => ih order j (hway.step hi hj) h) hfold
    | ok inner =>
      rw [hfold] at h
      cases h
  | case3 free path order i hnew hi =>
    cases h
    obtain ⟨js, hnames, hjs⟩ := hway.circular (hway.mem_path hi)
    exact ⟨js, by rw [hnames], hjs⟩

/-! ### The depth of the walk -/

/-- The walk with no more than `budget` calls open at once, and `gone` where it would need one more. That a
place is on the path is all that keeps it from being visited again. -/
def visitOr (ds : List Descriptor) (gone : Except Failure (List Nat)) :
    Nat → List Nat → List Nat → Nat → Except Failure (List Nat)
  | 0, _, _, _ => gone
  | budget + 1, path, order, i =>
    if order.contains i then .ok order
    else if path.contains i then .error (.pluginCycle (circle ds path i))
    else do
      let order ← (dependenciesOf ds i).foldlM (fun order d => visitOr ds gone budget (i :: path) order d) order
      return order ++ [i]

theorem visitOr_eq (hway : Way ds free path i) (hbudget : free.length < budget) :
    visitOr ds gone budget path order i = visit ds free path order i := by
  fun_induction visit ds free path order i generalizing budget with
  | case1 free path order i hdone =>
    obtain ⟨budget, rfl⟩ := Nat.exists_eq_succ_of_ne_zero (Nat.ne_zero_of_lt hbudget)
    rw [visitOr, if_pos hdone]
  | case2 free path order i hnew hi ih =>
    obtain ⟨budget, rfl⟩ := Nat.exists_eq_succ_of_ne_zero (Nat.ne_zero_of_lt hbudget)
    have hpath : ¬ path.contains i := by simpa using ((hway.free_iff i).1 hi).2
    have hlen := List.length_erase_of_mem hi
    have hpos := List.length_pos_of_mem hi
    rw [visitOr, if_neg hnew, if_neg hpath]
    refine congrArg (· >>= _) (foldlM_congr_mem fun j hj order => ih order j (hway.step hi hj) ?_)
    omega
  | case3 free path order i hnew hi =>
    obtain ⟨budget, rfl⟩ := Nat.exists_eq_succ_of_ne_zero (Nat.ne_zero_of_lt hbudget)
    rw [visitOr, if_neg hnew, if_pos (by simpa using hway.mem_path hi)]

/-! ### What the walk looks at -/

theorem visit_congr (hnames : ds.map (·.name) = es.map (·.name))
    (hdeps : ∀ i, dependenciesOf ds i = dependenciesOf es i) :
    visit ds free path order i = visit es free path order i := by
  fun_induction visit ds free path order i with
  | case1 free path order i hdone => rw [visit, if_pos hdone]
  | case2 free path order i hnew hi ih =>
    rw [visit.eq_def es, if_neg hnew, dif_pos hi, ← hdeps]
    exact congrArg (· >>= _) (foldlM_congr_mem fun j _ order => ih order j)
  | case3 free path order i hnew hi =>
    have hname (j : Nat) : (ds[j]?).map (·.name) = (es[j]?).map (·.name) := by
      rw [← List.getElem?_map, ← List.getElem?_map, hnames]
    rw [visit, if_neg hnew, dif_neg hi]
    simp only [circle, hname]

end Typeforge.Schedule
