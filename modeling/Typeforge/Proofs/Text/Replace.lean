import Typeforge.Text.Replace

/-!
# What replacement does, and what the lines of a text are

An occurrence at the beginning is replaced, and what follows it is looked at next; where there is none at the beginning,
the first character stays. A pattern of one character is replaced wherever the character is (`replaceAll_single`). A
line is a piece of the text (`infix_of_mem_lines`).
-/

namespace Typeforge.Text

variable {p c : Char} {ps new cs : List Char}

@[simp] theorem replaceAll_nil : replaceAll p ps new [] = [] := by rw [replaceAll]

theorem replaceAll_append (cs : List Char) :
    replaceAll p ps new (p :: (ps ++ cs)) = new ++ replaceAll p ps new cs := by
  have hprefix : (p :: ps).isPrefixOf (p :: (ps ++ cs)) = true :=
    List.isPrefixOf_iff_prefix.2 (List.prefix_append (p :: ps) cs)
  rw [replaceAll, if_pos hprefix, List.drop_left]

theorem replaceAll_cons (h : ¬ p :: ps <+: c :: cs) :
    replaceAll p ps new (c :: cs) = c :: replaceAll p ps new cs := by
  have hprefix : ¬ (p :: ps).isPrefixOf (c :: cs) = true := fun hp => h (List.isPrefixOf_iff_prefix.1 hp)
  rw [replaceAll, if_neg hprefix]

theorem replaceAll_cons_of_ne (h : c ≠ p) : replaceAll p ps new (c :: cs) = c :: replaceAll p ps new cs := by
  refine replaceAll_cons fun hprefix => ?_
  obtain ⟨rest, hrest⟩ := hprefix
  exact h (List.cons.inj hrest).1.symm

theorem replaceAll_single (cs : List Char) :
    replaceAll p [] new cs = cs.flatMap fun c => if c = p then new else [c] := by
  induction cs with
  | nil => simp
  | cons c cs ih =>
    by_cases hc : c = p
    · subst hc
      have happend : replaceAll c [] new (c :: cs) = new ++ replaceAll c [] new cs := replaceAll_append cs
      rw [happend, ih]
      simp
    · rw [replaceAll_cons_of_ne hc, ih]
      simp [hc]

/-! ### Lines -/

theorem stretches_ne_nil (cs : List Char) : stretches cs ≠ [] := by
  cases cs with
  | nil => simp [stretches]
  | cons c cs =>
    rw [stretches]
    split
    · simp
    · split <;> simp

theorem prefix_of_stretches {s : List Char} {ss : List (List Char)} (h : stretches cs = s :: ss) : s <+: cs := by
  induction cs generalizing s ss with
  | nil =>
    obtain ⟨rfl, -⟩ := List.cons.inj h
    exact List.nil_prefix
  | cons c cs ih =>
    rw [stretches] at h
    split at h
    · obtain ⟨rfl, -⟩ := List.cons.inj h
      exact List.nil_prefix
    · split at h
      · rename_i first rest hcs
        obtain ⟨rfl, -⟩ := List.cons.inj h
        exact List.cons_prefix_cons.2 ⟨rfl, ih hcs⟩
      · rename_i hcs
        exact absurd hcs (stretches_ne_nil cs)

theorem infix_of_mem_stretches {s : List Char} (h : s ∈ stretches cs) : s <:+: cs := by
  induction cs generalizing s with
  | nil =>
    obtain rfl : s = [] := by simpa [stretches] using h
    exact List.infix_rfl
  | cons c cs ih =>
    cases hcs : stretches (c :: cs) with
    | nil => exact absurd hcs (stretches_ne_nil _)
    | cons first rest =>
      rw [hcs] at h
      rcases List.mem_cons.1 h with rfl | hrest
      · exact (prefix_of_stretches hcs).isInfix
      · -- the other stretches are stretches of what is behind the first character
        have hmem : s ∈ stretches cs := by
          rw [stretches] at hcs
          split at hcs
          · exact (List.cons.inj hcs).2 ▸ hrest
          · split at hcs
            · rename_i htail
              rw [htail, (List.cons.inj hcs).2]
              exact List.mem_cons_of_mem _ hrest
            · rename_i htail
              exact absurd htail (stretches_ne_nil cs)
        exact List.infix_cons (ih hmem)

theorem prefix_of_endLine (line : List Char) : endLine line <+: line := by
  unfold endLine
  split
  · exact List.dropLast_prefix line
  · exact List.prefix_rfl

theorem infix_of_mem_lines {s line : String} (h : line ∈ lines s) : line.toList <:+: s.toList := by
  obtain ⟨cs, hcs, rfl⟩ := List.mem_map.1 h
  rw [String.toList_ofList]
  rcases List.mem_append.1 hcs with hended | hlast
  · obtain ⟨part, hpart, rfl⟩ := List.mem_map.1 hended
    exact (prefix_of_endLine part).isInfix.trans (infix_of_mem_stretches ((List.dropLast_sublist _).mem hpart))
  · cases hparts : (stretches s.toList).getLast? with
    | none => simp [hparts] at hlast
    | some last =>
      have hcs : cs = last := by
        rw [hparts] at hlast
        split at hlast
        · cases hlast
        · exact List.mem_singleton.1 hlast
      exact hcs ▸ infix_of_mem_stretches (List.mem_of_getLast? hparts)

end Typeforge.Text
