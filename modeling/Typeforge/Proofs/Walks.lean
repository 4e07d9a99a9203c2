import Mathlib.Data.List.Chain
import Mathlib.Data.List.Nodup

/-!
# Walks that come back

A walk along a relation is written down as the list of its items. `ClosedWalk` ends where it begins, so its first
item stands in the list twice; a `Circular` one comes to no other item twice.
-/

namespace Typeforge

/-- Each item is related to the next one, and the last is the first again. -/
structure ClosedWalk {α : Type} (R : α → α → Prop) (as : List α) : Prop where
  long : 2 ≤ as.length
  closes : as.head? = as.getLast?
  linked : as.IsChain R

/-- The items between are all different. -/
structure Circular {α : Type} (R : α → α → Prop) (as : List α) : Prop extends ClosedWalk R as where
  distinct : as.dropLast.Nodup

section Walks

variable {α β : Type} {R : α → α → Prop} {as : List α}

theorem ClosedWalk.map {S : β → β → Prop} {f : α → β} (h : ClosedWalk R as) (hRS : ∀ a b, R a b → S (f a) (f b)) :
    ClosedWalk S (as.map f) where
  long := by simpa using h.long
  closes := by rw [List.head?_map, List.getLast?_map, h.closes]
  linked := List.isChain_map_of_isChain f hRS h.linked

theorem Circular.map {S : β → β → Prop} {f : α → β} (h : Circular R as) (hRS : ∀ a b, R a b → S (f a) (f b))
    (hf : ∀ a ∈ as, ∀ b ∈ as, f a = f b → a = b) : Circular S (as.map f) where
  toClosedWalk := h.toClosedWalk.map hRS
  distinct := by
    rw [← List.map_dropLast]
    have inside : as.dropLast ⊆ as := (List.dropLast_sublist as).subset
    exact h.distinct.map_on fun a ha b hb => hf a (inside ha) b (inside hb)

/-- A walk among names is one among what has the names, where nothing shares its name with another thing. -/
theorem ClosedWalk.named [Nonempty β] {S : β → β → Prop} {N : β → α → Prop} (h : ClosedWalk R as)
    (hN : ∀ x y a, N x a → N y a → x = y) (hRS : ∀ a b, R a b → ∃ x y, S x y ∧ N x a ∧ N y b) :
    ∃ xs, ClosedWalk S xs := by
  have hback (a : α) : ∃ x, ∀ y, N y a → x = y := by
    by_cases ha : ∃ x, N x a
    · obtain ⟨x, hx⟩ := ha
      exact ⟨x, fun y hy => hN x y a hx hy⟩
    · exact ⟨Classical.arbitrary β, fun y hy => absurd ⟨y, hy⟩ ha⟩
  choose back hback using hback
  refine ⟨as.map back, h.map fun a b hab => ?_⟩
  obtain ⟨x, y, hxy, hx, hy⟩ := hRS a b hab
  rw [hback a x hx, hback b y hy]
  exact hxy

theorem ClosedWalk.transGen (h : ClosedWalk R as) : ∃ a, Relation.TransGen R a a := by
  match as, h with
  | a :: b :: rest, h =>
    have hlast : (b :: rest).getLast (by simp) = a := by
      have := h.closes
      rw [List.head?_cons, List.getLast?_cons_cons, List.getLast?_eq_some_getLast (by simp)] at this
      exact (Option.some.inj this).symm
    obtain ⟨hab, hrest⟩ := List.isChain_cons_cons.1 h.linked
    exact ⟨a, .head' hab (List.relationReflTransGen_of_exists_isChain_cons rest hrest hlast)⟩

theorem not_transGen_of_falls {f : α → Nat} (h : ∀ a b, R a b → f b < f a) (a : α) : ¬ Relation.TransGen R a a := by
  have falls {b : α} (hb : Relation.TransGen R a b) : f b < f a := by
    induction hb with
    | single hb => exact h _ _ hb
    | tail _ hbc ih => exact Nat.lt_trans (h _ _ hbc) ih
  exact fun ha => Nat.lt_irrefl _ (falls ha)

/-- No measure falls all the way: at some step of the walk it does not. -/
theorem ClosedWalk.exists_step (h : ClosedWalk R as) (f : α → Nat) :
    ∃ before a b after, as = before ++ a :: b :: after ∧ R a b ∧ f a ≤ f b := by
  by_contra! hno
  have hlinked := List.isChain_iff_forall_rel_of_append_cons_cons.1 h.linked
  have hfalls : ClosedWalk (fun a b => f b < f a) as := ⟨h.long, h.closes,
    List.isChain_iff_forall_rel_of_append_cons_cons.2 fun a b before after heq =>
      hno before a b after heq (hlinked heq)⟩
  obtain ⟨a, ha⟩ := hfalls.transGen
  exact not_transGen_of_falls (fun _ _ h => h) a ha

theorem ClosedWalk.exists_before (h : ClosedWalk R as) {a : α} (ha : a ∈ as) : ∃ b, R b a := by
  have hlinked := List.isChain_iff_forall_rel_of_append_cons_cons.1 h.linked
  have hlater (before after : List α) (hbefore : before ≠ []) (heq : as = before ++ a :: after) : ∃ b, R b a := by
    obtain ⟨before, b, rfl⟩ := (List.eq_nil_or_concat before).resolve_left hbefore
    have heq' : as = before ++ b :: a :: after := by simpa using heq
    exact ⟨b, hlinked heq'⟩
  obtain ⟨before, after, heq⟩ := List.append_of_mem ha
  by_cases hbefore : before = []
  · -- the first item is the last one too
    subst hbefore
    have hlast : as.getLast? = some a := by rw [← h.closes, heq]; rfl
    obtain ⟨before, heq'⟩ := List.getLast?_eq_some_iff.1 hlast
    refine hlater before [] (fun hnil => ?_) heq'
    have := h.long
    simp [heq', hnil] at this
  · exact hlater before after hbefore heq

end Walks

end Typeforge
