import Mathlib.Data.List.Basic
import Mathlib.Data.List.Induction

/-!
# The first of those that are the same

In a list some elements may be the same as others. `firsts` says which of them come first by looking at all that is
before each one. A function that goes through the list and keeps what it has not met is shown to give them one element
at a time (`firsts_concat`).
-/

namespace Typeforge

variable {α : Type} {same : α → α → Bool} {p : α → Bool} {as : List α} {a : α}

/-- The first of those that are the same, in order: each one that none before it is the same as. -/
def firsts (same : α → α → Bool) (as : List α) : List α :=
  (as.zipIdx.filter fun (a, i) => !(as.take i).any (same · a)).map Prod.fst

theorem firsts_concat (as : List α) (a : α) :
    firsts same (as ++ [a]) = firsts same as ++ if as.any (same · a) then [] else [a] := by
  have hbefore : as.zipIdx.filter (fun (b, i) => !((as ++ [a]).take i).any (same · b)) =
      as.zipIdx.filter fun (b, i) => !(as.take i).any (same · b) := by
    refine List.filter_congr fun ⟨b, i⟩ hb => ?_
    have hi : i < as.length := by simpa using List.snd_lt_of_mem_zipIdx hb
    simp only [List.take_append_of_le_length (Nat.le_of_lt hi)]
  rw [firsts, List.zipIdx_append, List.filter_append, List.map_append, hbefore]
  congr 1
  by_cases h : as.any (same · a) <;> simp [h]

/-! ### What the first ones are -/

theorem firsts_sublist (as : List α) : (firsts same as).Sublist as := by
  induction as using List.reverseRecOn with
  | nil => exact List.Sublist.slnil
  | append_singleton as a ih =>
    rw [firsts_concat]
    refine ih.append ?_
    split
    · exact List.nil_sublist [a]
    · exact List.Sublist.refl [a]

theorem pairwise_firsts (as : List α) : (firsts same as).Pairwise fun a b => same a b = false := by
  induction as using List.reverseRecOn with
  | nil => exact List.Pairwise.nil
  | append_singleton as a ih =>
    rw [firsts_concat]
    by_cases h : as.any (same · a) = true
    · rwa [if_pos h, List.append_nil]
    · rw [if_neg h, List.pairwise_append]
      refine ⟨ih, List.pairwise_singleton _ a, fun b hb c hc => ?_⟩
      obtain rfl := List.mem_singleton.1 hc
      rw [Bool.eq_false_iff]
      exact fun hbc => h (List.any_eq_true.2 ⟨b, (firsts_sublist as).subset hb, hbc⟩)

section Reflexive

variable (refl : ∀ a, same a a = true)

include refl

theorem mem_firsts_iff : a ∈ firsts same as ↔ as.find? (same · a) = some a := by
  induction as using List.reverseRecOn with
  | nil => simp [firsts]
  | append_singleton as b ih =>
    rw [firsts_concat, List.mem_append, ih, List.find?_append]
    cases hfound : as.find? (same · a) with
    | some c =>
      -- what is the same as `a` is there already
      have hsame := List.find?_some hfound
      have hmet : as.any (same · a) = true := List.any_eq_true.2 ⟨c, List.mem_of_find?_eq_some hfound, hsame⟩
      rw [Option.some_or]
      refine ⟨fun h => h.resolve_right fun hb => ?_, .inl⟩
      split at hb
      · cases hb
      · obtain rfl := List.mem_singleton.1 hb
        contradiction
    | none =>
      have hnew : as.any (same · a) = false := by
        rw [List.any_eq_false]
        exact fun c hc => List.find?_eq_none.1 hfound c hc
      rw [Option.none_or, List.find?_singleton]
      constructor
      · rintro (h | h)
        · cases h
        · split at h
          · cases h
          · obtain rfl := List.mem_singleton.1 h
            rw [if_pos (refl a)]
      · intro h
        split at h
        · obtain rfl := Option.some.inj h
          simp [hnew]
        · cases h

variable (trans : ∀ a b c, same a b = true → same b c = true → same a c = true)

include trans

theorem exists_same_firsts (h : a ∈ as) : ∃ b ∈ firsts same as, same b a = true := by
  induction as using List.reverseRecOn generalizing a with
  | nil => cases h
  | append_singleton as c ih =>
    rw [firsts_concat]
    rcases List.mem_append.1 h with h | h
    · obtain ⟨b, hb, hba⟩ := ih h
      exact ⟨b, List.mem_append_left _ hb, hba⟩
    · obtain rfl := List.mem_singleton.1 h
      by_cases hmet : as.any (same · a) = true
      · obtain ⟨c, hc, hca⟩ := List.any_eq_true.1 hmet
        obtain ⟨b, hb, hbc⟩ := ih hc
        exact ⟨b, List.mem_append_left _ hb, trans b c a hbc hca⟩
      · rw [if_neg hmet]
        exact ⟨a, List.mem_append_right _ (List.mem_singleton_self a), refl a⟩

theorem any_firsts : (firsts same as).any (same · a) = as.any (same · a) := by
  rw [Bool.eq_iff_iff, List.any_eq_true, List.any_eq_true]
  constructor
  · rintro ⟨b, hb, hba⟩
    exact ⟨b, (firsts_sublist as).subset hb, hba⟩
  · rintro ⟨c, hc, hca⟩
    obtain ⟨b, hb, hbc⟩ := exists_same_firsts refl trans hc
    exact ⟨b, hb, trans b c a hbc hca⟩

end Reflexive

theorem mem_firsts_beq [BEq α] [LawfulBEq α] : a ∈ firsts (· == ·) as ↔ a ∈ as := by
  induction as using List.reverseRecOn with
  | nil => rfl
  | append_singleton as b ih =>
    rw [firsts_concat, List.mem_append, List.mem_append, ih, List.mem_singleton]
    by_cases hb : b ∈ as
    · have hmet : as.any (· == b) = true := List.any_eq_true.2 ⟨b, hb, beq_self_eq_true b⟩
      rw [if_pos hmet]
      exact ⟨fun h => .inl (h.resolve_right List.not_mem_nil), fun h => .inl (h.elim id (· ▸ hb))⟩
    · have hnew : as.any (· == b) = false := by
        rw [List.any_eq_false]
        rintro c hc hcb
        exact hb (eq_of_beq hcb ▸ hc)
      simp [hnew]

/-- Where no two elements have a property, but one has it, there is one that has it. -/
theorem countP_eq_one (hpair : as.Pairwise fun a b => p a = true → p b = false) (h : a ∈ as) (ha : p a = true) :
    as.countP p = 1 := by
  induction as with
  | nil => cases h
  | cons b bs ih =>
    obtain ⟨hb, hbs⟩ := List.pairwise_cons.1 hpair
    by_cases hpb : p b = true
    · have hnone : bs.countP p = 0 := List.countP_eq_zero.2 fun c hc => by simp [hb c hc hpb]
      rw [List.countP_cons_of_pos hpb, hnone]
    · have hmem : a ∈ bs := (List.mem_cons.1 h).resolve_left fun heq => hpb (heq ▸ ha)
      rw [List.countP_cons_of_neg hpb, ih hbs hmem]

end Typeforge
