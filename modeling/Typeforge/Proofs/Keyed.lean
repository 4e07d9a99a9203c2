import Typeforge.Keyed
import Typeforge.Proofs.Firsts
import Mathlib.Data.List.Nodup
import Mathlib.Data.List.Perm.Subperm

/-!
# Looking up and putting

What a key finds in a keyed list, and what a list looks like after a key was put. A list that is built by
`put` has each key once, so every entry of it is found under its key. Of several values that are put under one key, the
first says where it stands (`keys_ofEntries`) and the last what it finds (`get?_ofEntries`).
-/

namespace Typeforge.Keyed

variable {α : Type} {m m' : Keyed α} {key : String} {value : α}

/-! ### Looking up -/

theorem mem_of_get? (h : get? m key = some value) : (key, value) ∈ m := by
  induction m with
  | nil => simp [get?] at h
  | cons e rest ih =>
    obtain ⟨k, v⟩ := e
    by_cases hk : k = key
    · simp only [get?, hk, if_true, Option.some.injEq] at h
      simp [hk, h]
    · simp only [get?, hk, if_false] at h
      exact List.mem_cons_of_mem _ (ih h)

theorem get?_eq_none_iff : get? m key = none ↔ key ∉ keys m := by
  induction m with
  | nil => simp [get?, keys]
  | cons e rest ih =>
    obtain ⟨k, v⟩ := e
    by_cases hk : k = key
    · simp [get?, keys, hk]
    · have hk' : key ≠ k := fun h => hk h.symm
      simp only [keys] at ih
      simp [get?, keys, hk, hk', ih]

theorem get?_ne_none_of_mem (h : (key, value) ∈ m) : get? m key ≠ none := by
  rw [Ne, get?_eq_none_iff, not_not]
  exact List.mem_map.2 ⟨(key, value), h, rfl⟩

theorem get?_of_mem (hm : (keys m).Nodup) (h : (key, value) ∈ m) : get? m key = some value := by
  induction m with
  | nil => simp at h
  | cons e rest ih =>
    obtain ⟨k, v⟩ := e
    simp only [keys, List.map_cons, List.nodup_cons] at hm
    rcases List.mem_cons.1 h with heq | hrest
    · obtain ⟨rfl, rfl⟩ := Prod.mk.inj heq
      simp [get?]
    · have hk : k ≠ key := by
        rintro rfl
        exact hm.1 (List.mem_map.2 ⟨(k, value), hrest, rfl⟩)
      simp only [get?, hk, if_false]
      exact ih hm.2 hrest

/-- Between maps of one length, all of the first found in the second is all of the second found in the first. -/
theorem found_symm {R : α → α → Prop} (hm : (keys m).Nodup) (hm' : (keys m').Nodup) (hl : m.length = m'.length)
    (h : ∀ e ∈ m, ∃ w, get? m' e.1 = some w ∧ R e.2 w) : ∀ e ∈ m', ∃ v, get? m e.1 = some v ∧ R v e.2 := by
  have hsub : keys m ⊆ keys m' := by
    intro k hk
    obtain ⟨e, he, rfl⟩ := List.mem_map.1 hk
    obtain ⟨w, hw, -⟩ := h e he
    exact List.mem_map.2 ⟨_, mem_of_get? hw, rfl⟩
  have hperm : (keys m).Perm (keys m') :=
    (List.subperm_of_subset hm hsub).perm_of_length_le (by simp [keys, hl])
  intro e he
  obtain ⟨⟨k, v⟩, hv, hk : k = e.1⟩ := List.mem_map.1 (hperm.mem_iff.2 (List.mem_map.2 ⟨e, he, rfl⟩))
  obtain ⟨w, hw, hR⟩ := h _ hv
  rw [hk, get?_of_mem hm' he] at hw
  cases hw
  exact ⟨v, get?_of_mem hm (hk ▸ hv), hR⟩

theorem get?_append : get? (m ++ m') key = (get? m key <|> get? m' key) := by
  induction m with
  | nil => simp [get?]
  | cons e rest ih =>
    obtain ⟨k, v⟩ := e
    by_cases hk : k = key
    · simp [get?, hk]
    · simpa [get?, hk] using ih

theorem get?_append_of_some (h : get? m key = some value) : get? (m ++ m') key = some value := by
  rw [get?_append, h]; rfl

/-! ### Putting -/

theorem get?_put (k : String) : get? (put m key value) k = if key = k then some value else get? m k := by
  induction m with
  | nil => rfl
  | cons e rest ih =>
    obtain ⟨k', v⟩ := e
    by_cases hkey : k' = key
    · subst hkey
      rw [put, if_pos rfl, get?, get?]
      by_cases hk : k' = k
      · rw [if_pos hk, if_pos hk]
      · rw [if_neg hk, if_neg hk, if_neg hk]
    · rw [put, if_neg hkey, get?, get?, ih]
      by_cases hk : k' = k
      · subst hk
        rw [if_pos rfl, if_neg (Ne.symm hkey), if_pos rfl]
      · rw [if_neg hk, if_neg hk]

theorem keys_put : keys (put m key value) = if key ∈ keys m then keys m else keys m ++ [key] := by
  induction m with
  | nil => simp [put, keys]
  | cons e rest ih =>
    obtain ⟨k, v⟩ := e
    by_cases hk : k = key
    · simp [put, keys, hk]
    · have hk' : key ≠ k := fun h => hk h.symm
      simp only [keys] at ih
      simp only [put, keys, hk, if_false, List.map_cons, ih, List.mem_cons, hk', false_or]
      split <;> simp_all

theorem nodup_keys_put (hm : (keys m).Nodup) : (keys (put m key value)).Nodup := by
  rw [keys_put]
  split
  · exact hm
  · rename_i hk
    exact List.nodup_append.2 ⟨hm, by simp, fun a ha b hb => by
      rw [List.mem_singleton.1 hb]
      rintro rfl
      exact hk ha⟩

theorem mem_put {e : String × α} (h : e ∈ put m key value) : e ∈ m ∨ e = (key, value) := by
  induction m with
  | nil => exact .inr (by simpa [put] using h)
  | cons e' rest ih =>
    obtain ⟨k, v⟩ := e'
    by_cases hk : k = key
    · simp only [put, hk, if_true, List.mem_cons] at h
      rcases h with h | h
      · exact .inr h
      · exact .inl (List.mem_cons_of_mem _ h)
    · simp only [put, hk, if_false, List.mem_cons] at h
      rcases h with h | h
      · exact .inl (h ▸ List.mem_cons_self)
      · exact (ih h).imp (List.mem_cons_of_mem _) id

section Several

variable {β : Type} (key : β → String) (value : β → α)

theorem nodup_keys_foldl_put (bs : List β) (hm : (keys m).Nodup) :
    (keys (bs.foldl (fun m b => put m (key b) (value b)) m)).Nodup := by
  induction bs generalizing m with
  | nil => exact hm
  | cons b bs ih => exact ih (nodup_keys_put hm)

theorem mem_foldl_put (bs : List β) {e : String × α}
    (h : e ∈ bs.foldl (fun m b => put m (key b) (value b)) m) : e ∈ m ∨ ∃ b ∈ bs, e = (key b, value b) := by
  induction bs generalizing m with
  | nil => exact .inl h
  | cons b bs ih =>
    rcases ih h with h | ⟨c, hc, rfl⟩
    · exact (mem_put h).imp id fun h => ⟨b, List.mem_cons_self, h⟩
    · exact .inr ⟨c, List.mem_cons_of_mem _ hc, rfl⟩

end Several

/-! ### Lists without repeated keys -/

theorem put_of_not_mem (h : key ∉ keys m) : put m key value = m ++ [(key, value)] := by
  induction m with
  | nil => rfl
  | cons e rest ih =>
    obtain ⟨k, v⟩ := e
    simp only [keys, List.map_cons, List.mem_cons, not_or] at h
    rw [put, if_neg (Ne.symm h.1), ih h.2, List.cons_append]

theorem length_put_of_mem (h : key ∈ keys m) : (put m key value).length = m.length := by
  have hkeys : (keys (put m key value)).length = _ := congrArg List.length keys_put
  rw [if_pos h] at hkeys
  simpa [keys] using hkeys

theorem length_foldl_put_le (entries : List (String × α)) :
    (entries.foldl (fun m e => put m e.1 e.2) m).length ≤ m.length + entries.length := by
  induction entries generalizing m with
  | nil => simp
  | cons e entries ih =>
    have hrest := ih (m := put m e.1 e.2)
    have hput : (put m e.1 e.2).length ≤ m.length + 1 := by
      by_cases h : e.1 ∈ keys m
      · rw [length_put_of_mem h]
        omega
      · simp [put_of_not_mem h]
    simp only [List.foldl_cons, List.length_cons]
    omega

/-- Where none of the entries was put over another one, they stand one after the other. -/
theorem foldl_put_of_length {entries : List (String × α)}
    (h : (entries.foldl (fun m e => put m e.1 e.2) m).length = m.length + entries.length) :
    entries.foldl (fun m e => put m e.1 e.2) m = m ++ entries := by
  induction entries generalizing m with
  | nil => simp
  | cons e entries ih =>
    simp only [List.foldl_cons, List.length_cons] at h ⊢
    by_cases hmem : e.1 ∈ keys m
    · have hle := length_foldl_put_le (m := put m e.1 e.2) entries
      rw [length_put_of_mem hmem] at hle
      omega
    · rw [put_of_not_mem hmem] at h ⊢
      rw [ih (by simp at h ⊢; omega), List.append_assoc, List.singleton_append]

theorem foldl_put_of_nodup {entries : List (String × α)} (h : (keys (m ++ entries)).Nodup) :
    entries.foldl (fun m e => put m e.1 e.2) m = m ++ entries := by
  induction entries generalizing m with
  | nil => simp
  | cons e entries ih =>
    have hsplit : m ++ e :: entries = m ++ [e] ++ entries := by rw [List.append_assoc, List.singleton_append]
    have hnew : e.1 ∉ keys m := by
      simp only [keys, List.map_append, List.nodup_append] at h
      exact fun hmem => h.2.2 e.1 hmem e.1 (by simp) rfl
    rw [hsplit] at h ⊢
    rw [List.foldl_cons, put_of_not_mem hnew, ih h]

theorem nodup_keys_ofEntries (entries : List (String × α)) : (keys (ofEntries entries)).Nodup :=
  nodup_keys_foldl_put Prod.fst Prod.snd entries List.nodup_nil

theorem mem_of_mem_ofEntries {entries : List (String × α)} {e : String × α} (h : e ∈ ofEntries entries) :
    e ∈ entries := by
  rcases mem_foldl_put Prod.fst Prod.snd entries h with h | ⟨b, hb, rfl⟩
  · simp at h
  · exact hb

/-! ### First places and last values -/

theorem ofEntries_concat (entries : List (String × α)) (e : String × α) :
    ofEntries (entries ++ [e]) = put (ofEntries entries) e.1 e.2 := by
  rw [ofEntries, List.foldl_append, ofEntries, List.foldl_cons, List.foldl_nil]

/-- Each key has the place at which it is first put. -/
theorem keys_ofEntries (entries : List (String × α)) :
    keys (ofEntries entries) = firsts (· == ·) (entries.map Prod.fst) := by
  induction entries using List.reverseRecOn with
  | nil => rfl
  | append_singleton entries e ih =>
    have hmet : (entries.map Prod.fst).any (· == e.1) = true ↔ e.1 ∈ keys (ofEntries entries) := by
      rw [ih, mem_firsts_beq]
      simp
    rw [ofEntries_concat, keys_put, List.map_append, List.map_singleton, firsts_concat, ih]
    by_cases h : e.1 ∈ keys (ofEntries entries)
    · rw [if_pos (ih ▸ h), if_pos (hmet.2 h), List.append_nil]
    · rw [if_neg (ih ▸ h), if_neg (mt hmet.1 h)]

theorem get?_ofEntries (entries : List (String × α)) (key : String) :
    get? (ofEntries entries) key = (entries.filter (·.1 = key)).getLast?.map Prod.snd := by
  induction entries using List.reverseRecOn with
  | nil => rfl
  | append_singleton entries e ih =>
    rw [ofEntries_concat, get?_put, List.filter_append]
    by_cases h : e.1 = key
    · simp [h]
    · simp [h, ih]

end Typeforge.Keyed
