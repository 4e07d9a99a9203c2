import Typeforge.Text.Words
import Mathlib.Data.List.Basic
import Mathlib.Data.List.Infix

/-!
# Where a text falls into words

The pass over a text keeps the words that are done and the one that was begun. Whatever they are, it goes on as the
recursion does that puts a character before the words of the rest (`wordsAfter_eq`). All else is proved by the
recursion.

No word is empty, and the words one after the other are the letters and numbers of the text. So it is enough to say
between which of them the text is cut: of two that stand side by side, the second begins a word just if they are
`Parted` (`apart_iff`, `together_iff`). What stands before a character has no say in how the text goes on from there,
which is the one induction behind it (`exists_words_append`).

Words without capitals that are joined by a separator are found again (`words_intercalate`).
-/

namespace Typeforge.Text

variable {c d : Char} {s before after rest : List Char}

/-! ### The pass -/

/-- Whether the text after `c` goes on with the word that `c` belongs to. -/
def continuesWord (c : Char) : List Char → Bool
  | [] => false
  | d :: next => isAlphanumeric d && !startsWord c d next

def recursiveWords : List Char → List (List Char)
  | [] => []
  | c :: rest =>
    if isAlphanumeric c then
      match continuesWord c rest, recursiveWords rest with
      | true, w :: ws => (c :: w) :: ws
      | _, ws => [c] :: ws
    else recursiveWords rest

section Recursion

variable {w : List Char} {ws : List (List Char)}

theorem recursiveWords_separator (h : isAlphanumeric c = false) : recursiveWords (c :: rest) = recursiveWords rest := by
  rw [recursiveWords, h]
  rfl

theorem recursiveWords_alone (hc : isAlphanumeric c = true) (h : continuesWord c rest = false) :
    recursiveWords (c :: rest) = [c] :: recursiveWords rest := by
  rw [recursiveWords, if_pos hc, h]

theorem recursiveWords_joined (hc : isAlphanumeric c = true) (h : continuesWord c rest = true)
    (hrest : recursiveWords rest = w :: ws) : recursiveWords (c :: rest) = (c :: w) :: ws := by
  rw [recursiveWords, if_pos hc, h, hrest]

theorem exists_recursiveWords_cons (hc : isAlphanumeric c = true) (rest : List Char) :
    ∃ w ws, recursiveWords (c :: rest) = (c :: w) :: ws := by
  rw [recursiveWords, if_pos hc]
  split
  · exact ⟨_, _, rfl⟩
  · exact ⟨_, _, rfl⟩

end Recursion

section Pass

variable {done : List (List Char)} {begun : List Char} {p : Char}

/-- A separator ends the word that was begun. -/
theorem wordsAfter_separator (prev : Option Char) (hd : isAlphanumeric d = false) :
    wordsAfter done begun prev (d :: rest) = wordsAfter (finished done begun) [] (some d) rest := by
  simp [wordsAfter, hd]

theorem wordsAfter_fresh (prev : Option Char) (hd : isAlphanumeric d = true) :
    wordsAfter done [] prev (d :: rest) = wordsAfter done [d] (some d) rest := by
  simp [wordsAfter, hd]

/-- A boundary ends the word that was begun, and begins the next one. -/
theorem wordsAfter_boundary (hd : isAlphanumeric d = true) (h : startsWord p d rest = true) :
    wordsAfter done (begun ++ [p]) (some p) (d :: rest) =
      wordsAfter (done ++ [begun ++ [p]]) [d] (some d) rest := by
  simp [wordsAfter, hd, h, finished]

theorem wordsAfter_inside (hd : isAlphanumeric d = true) (h : startsWord p d rest = false) :
    wordsAfter done (begun ++ [p]) (some p) (d :: rest) = wordsAfter done (begun ++ [p] ++ [d]) (some d) rest := by
  simp [wordsAfter, hd, h]

/-- **The pass and the recursion agree.** Where no word was begun, the words of the text follow those before it; where
one was begun, what the recursion finds of its last character's word is put behind it. -/
theorem wordsAfter_eq (s : List Char) :
    (∀ done prev, wordsAfter done [] prev s = done ++ recursiveWords s) ∧
    ∀ done begun p w ws, isAlphanumeric p = true → recursiveWords (p :: s) = (p :: w) :: ws →
      wordsAfter done (begun ++ [p]) (some p) s = done ++ (begun ++ p :: w) :: ws := by
  induction s with
  | nil =>
    refine ⟨fun done prev => (List.append_nil done).symm, fun done begun p w ws hp hwords => ?_⟩
    obtain ⟨hw, rfl⟩ := List.cons.inj ((recursiveWords_alone hp rfl).symm.trans hwords)
    obtain rfl : [] = w := (List.cons.inj hw).2
    simp [wordsAfter, finished, recursiveWords]
  | cons d rest ih =>
    obtain ⟨fresh, going⟩ := ih
    cases hd : isAlphanumeric d with
    | false =>
      refine ⟨fun done prev => ?_, fun done begun p w ws hp hwords => ?_⟩
      · rw [wordsAfter_separator prev hd, fresh, recursiveWords_separator hd]
        rfl
      · have hcut : continuesWord p (d :: rest) = false := by simp [continuesWord, hd]
        have hends := recursiveWords_alone hp hcut
        obtain ⟨hw, rfl⟩ := List.cons.inj (hends.symm.trans hwords)
        obtain rfl : [] = w := (List.cons.inj hw).2
        rw [wordsAfter_separator _ hd, fresh, recursiveWords_separator hd]
        simp [finished]
    | true =>
      obtain ⟨v, vs, hrest⟩ := exists_recursiveWords_cons hd rest
      refine ⟨fun done prev => ?_, fun done begun p w ws hp hwords => ?_⟩
      · rw [wordsAfter_fresh prev hd, hrest]
        exact going done [] d v vs hd hrest
      · cases hstarts : startsWord p d rest with
        | true =>
          have hcut : continuesWord p (d :: rest) = false := by simp [continuesWord, hstarts]
          have hends := recursiveWords_alone hp hcut
          obtain ⟨hw, rfl⟩ := List.cons.inj (hends.symm.trans hwords)
          obtain rfl : [] = w := (List.cons.inj hw).2
          rw [wordsAfter_boundary hd hstarts, hrest]
          exact (going (done ++ [begun ++ [p]]) [] d v vs hd hrest).trans (List.append_assoc _ _ _)
        | false =>
          have hgoes := recursiveWords_joined hp (by simp [continuesWord, hd, hstarts]) hrest
          obtain ⟨hw, rfl⟩ := List.cons.inj (hgoes.symm.trans hwords)
          obtain rfl : d :: v = w := (List.cons.inj hw).2
          rw [wordsAfter_inside hd hstarts, going done (begun ++ [p]) d v vs hd hrest, List.append_assoc]
          rfl

end Pass

theorem words_eq_recursiveWords (s : List Char) : words s = recursiveWords s := (wordsAfter_eq s).1 [] none

/-! ### One character more -/

@[simp] theorem words_nil : words [] = [] := rfl

theorem words_cons_separator (h : isAlphanumeric c = false) : words (c :: rest) = words rest := by
  simp only [words_eq_recursiveWords]
  exact recursiveWords_separator h

theorem words_cons_alone (hc : isAlphanumeric c = true) (h : continuesWord c rest = false) :
    words (c :: rest) = [c] :: words rest := by
  simp only [words_eq_recursiveWords]
  exact recursiveWords_alone hc h

theorem words_cons_joined {w : List Char} {ws : List (List Char)} (hc : isAlphanumeric c = true)
    (h : continuesWord c rest = true) (hrest : words rest = w :: ws) : words (c :: rest) = (c :: w) :: ws := by
  simp only [words_eq_recursiveWords] at hrest ⊢
  exact recursiveWords_joined hc h hrest

theorem exists_words_cons (hc : isAlphanumeric c = true) (rest : List Char) :
    ∃ w ws, words (c :: rest) = (c :: w) :: ws := by
  simp only [words_eq_recursiveWords]
  exact exists_recursiveWords_cons hc rest

theorem words_cons_cases (c : Char) (rest : List Char) :
    (isAlphanumeric c = false ∧ words (c :: rest) = words rest) ∨
    (isAlphanumeric c = true ∧ words (c :: rest) = [c] :: words rest) ∨
    (isAlphanumeric c = true ∧ ∃ w ws, words rest = w :: ws ∧ words (c :: rest) = (c :: w) :: ws) := by
  cases hc : isAlphanumeric c with
  | false => exact .inl ⟨rfl, words_cons_separator hc⟩
  | true =>
    cases h : continuesWord c rest with
    | false => exact .inr (.inl ⟨rfl, words_cons_alone hc h⟩)
    | true =>
      cases rest with
      | nil => cases h
      | cons d after =>
        have hd : isAlphanumeric d = true := by
          rw [continuesWord, Bool.and_eq_true] at h
          exact h.1
        obtain ⟨w, ws, hrest⟩ := exists_words_cons hd after
        exact .inr (.inr ⟨rfl, d :: w, ws, hrest, words_cons_joined hc h hrest⟩)

/-! ### What the words are made of -/

theorem ne_nil_of_mem_words {w : List Char} (h : w ∈ words s) : w ≠ [] := by
  induction s generalizing w with
  | nil => simp at h
  | cons c rest ih =>
    rcases words_cons_cases c rest with ⟨-, hc⟩ | ⟨-, hc⟩ | ⟨-, v, ws, hrest, hc⟩ <;> rw [hc] at h
    · exact ih h
    · rcases List.mem_cons.1 h with rfl | h
      · exact List.cons_ne_nil c []
      · exact ih h
    · rcases List.mem_cons.1 h with rfl | h
      · exact List.cons_ne_nil c v
      · exact ih (hrest ▸ List.mem_cons_of_mem v h)

/-- **The words are the letters and numbers of the text**, none lost and all in order. -/
theorem flatten_words (s : List Char) : (words s).flatten = s.filter isAlphanumeric := by
  induction s with
  | nil => simp
  | cons c rest ih =>
    rcases words_cons_cases c rest with ⟨halnum, hc⟩ | ⟨halnum, hc⟩ | ⟨halnum, v, ws, hrest, hc⟩
    · rw [hc, ih, List.filter_cons_of_neg (by simp [halnum])]
    · rw [hc, List.filter_cons_of_pos halnum, ← ih]
      rfl
    · rw [hc, List.filter_cons_of_pos halnum, ← ih, hrest]
      rfl

theorem mem_of_mem_words {w : List Char} (hw : w ∈ words s) (hc : c ∈ w) : c ∈ s ∧ isAlphanumeric c = true := by
  have hmem : c ∈ (words s).flatten := List.mem_flatten.2 ⟨w, hw, hc⟩
  rwa [flatten_words, List.mem_filter] at hmem

/-! ### Between which characters the text is cut -/

/-- Of two characters side by side the first is small, or a digit, and the second a capital, or both are capitals and a
small letter comes after them. -/
def Parted (c d : Char) (after : List Char) : Prop :=
  ((isLowercase c = true ∨ c.isDigit = true) ∧ isUppercase d = true) ∨
    (isUppercase c = true ∧ isUppercase d = true ∧ ∃ e ∈ after.head?, isLowercase e = true)

/-- The two characters after `before` are in two words, one after the other. -/
def Apart (before : List Char) (c d : Char) (after : List Char) : Prop :=
  ∃ ws u v ws', words (before ++ c :: d :: after) = ws ++ (u ++ [c]) :: (d :: v) :: ws' ∧
    ws.flatten ++ u = before.filter isAlphanumeric

/-- The two characters after `before` are side by side in one word. -/
def Together (before : List Char) (c d : Char) (after : List Char) : Prop :=
  ∃ ws u v ws', words (before ++ c :: d :: after) = ws ++ (u ++ c :: d :: v) :: ws' ∧
    ws.flatten ++ u = before.filter isAlphanumeric

theorem startsWord_iff : startsWord c d after = true ↔ Parted c d after := by
  cases after with
  | nil => simp [startsWord, Parted]
  | cons e after => simp [startsWord, Parted]; tauto

/-- **What stands before a word has no say in how it goes on.** A text that is put before others changes the first of
their words only in what comes before its first character. -/
theorem exists_words_append {w : List Char} {ws' : List (List Char)} (h : words rest = w :: ws')
    (before : List Char) : ∃ ws u, words (before ++ rest) = ws ++ (u ++ w) :: ws' ∧
      ws.flatten ++ u = before.filter isAlphanumeric := by
  induction before with
  | nil => exact ⟨[], [], h, rfl⟩
  | cons b before ih =>
    obtain ⟨ws, u, hwords, hflat⟩ := ih
    rw [List.cons_append]
    rcases words_cons_cases b (before ++ rest) with ⟨hb, hcons⟩ | ⟨hb, hcons⟩ | ⟨hb, v, vs, hrest, hcons⟩
    · refine ⟨ws, u, hcons.trans hwords, ?_⟩
      rw [List.filter_cons_of_neg (by simp [hb]), hflat]
    · refine ⟨[b] :: ws, u, by rw [hcons, hwords, List.cons_append], ?_⟩
      rw [List.filter_cons_of_pos hb, ← hflat]
      rfl
    · -- `b` goes into the first word, which may be the one that `w` ends
      rw [List.filter_cons_of_pos hb, ← hflat]
      rw [hwords] at hrest
      cases ws with
      | nil =>
        obtain ⟨rfl, rfl⟩ := List.cons.inj hrest
        exact ⟨[], b :: u, hcons, rfl⟩
      | cons x ws =>
        obtain ⟨rfl, rfl⟩ := List.cons.inj hrest
        exact ⟨(b :: x) :: ws, u, hcons, rfl⟩

section Adjacent

variable (hc : isAlphanumeric c = true) (hd : isAlphanumeric d = true)

include hc hd

theorem apart_of_parted (before : List Char) (h : Parted c d after) : Apart before c d after := by
  have hcut : continuesWord c (d :: after) = false := by simp [continuesWord, startsWord_iff.2 h]
  obtain ⟨v, ws', hv⟩ := exists_words_cons hd after
  obtain ⟨ws, u, hwords, hflat⟩ := exists_words_append (words_cons_alone hc hcut) before
  exact ⟨ws, u, v, ws', hv ▸ hwords, hflat⟩

theorem together_of_not_parted (before : List Char) (h : ¬ Parted c d after) : Together before c d after := by
  have hstarts : startsWord c d after = false := Bool.eq_false_iff.2 fun hs => h (startsWord_iff.1 hs)
  have hgoes : continuesWord c (d :: after) = true := by simp [continuesWord, hd, hstarts]
  obtain ⟨v, ws', hv⟩ := exists_words_cons hd after
  obtain ⟨ws, u, hwords, hflat⟩ := exists_words_append (words_cons_joined hc hgoes hv) before
  exact ⟨ws, u, v, ws', hwords, hflat⟩

end Adjacent

/-- Where words are written one after the other, a place in the text tells how its word goes on. -/
theorem eq_of_same_place {ws₁ ws₂ ws₁' ws₂' : List (List Char)} {u₁ u₂ x₁ x₂ : List Char}
    (h : ws₁ ++ (u₁ ++ x₁) :: ws₁' = ws₂ ++ (u₂ ++ x₂) :: ws₂') (hx₁ : 0 < x₁.length) (hx₂ : 0 < x₂.length)
    (hplace : (ws₁.flatten ++ u₁).length = (ws₂.flatten ++ u₂).length) : x₁ = x₂ := by
  induction ws₁ generalizing ws₂ with
  | nil =>
    cases ws₂ with
    | nil => exact (List.append_inj (List.cons.inj h).1 hplace).2
    | cons w ws₂ =>
      -- the first word would end before the place
      obtain ⟨rfl, -⟩ := List.cons.inj h
      simp only [List.flatten_nil, List.nil_append, List.flatten_cons, List.length_append] at hplace
      omega
  | cons w ws₁ ih =>
    cases ws₂ with
    | nil =>
      obtain ⟨rfl, -⟩ := List.cons.inj h
      simp only [List.flatten_nil, List.nil_append, List.flatten_cons, List.length_append] at hplace
      omega
    | cons w' ws₂ =>
      obtain ⟨rfl, hrest⟩ := List.cons.inj h
      refine ih hrest ?_
      simpa only [List.flatten_cons, List.append_assoc, List.length_append, Nat.add_left_cancel_iff] using hplace

theorem not_together_of_apart (h : Apart before c d after) : ¬ Together before c d after := by
  rintro ⟨ws₂, u₂, v₂, ws₂', hwords₂, hflat₂⟩
  obtain ⟨ws₁, u₁, v₁, ws₁', hwords₁, hflat₁⟩ := h
  have hrest : [c] = c :: d :: v₂ := eq_of_same_place (hwords₁.symm.trans hwords₂) (Nat.zero_lt_succ _)
    (Nat.zero_lt_succ _) (congrArg List.length (hflat₁.trans hflat₂.symm))
  cases hrest

section Adjacent

variable (hc : isAlphanumeric c = true) (hd : isAlphanumeric d = true)

include hc hd

/-- **Two letters or numbers side by side are in two words just if they are parted.** -/
theorem apart_iff : Apart before c d after ↔ Parted c d after := by
  refine ⟨fun hapart => ?_, apart_of_parted hc hd before⟩
  by_contra h
  exact not_together_of_apart hapart (together_of_not_parted hc hd before h)

theorem together_iff : Together before c d after ↔ ¬ Parted c d after :=
  ⟨fun htogether h => not_together_of_apart (apart_of_parted hc hd before h) htogether,
    together_of_not_parted hc hd before⟩

end Adjacent

/-! ### Words that are joined again -/

/-- A word in small letters and digits. -/
def IsPlain (w : List Char) : Prop := w ≠ [] ∧ ∀ c ∈ w, isAlphanumeric c = true ∧ isUppercase c = false

theorem words_append_of_isPlain {w : List Char} (h : IsPlain w) (hrest : ∀ x, continuesWord x rest = false) :
    words (w ++ rest) = w :: words rest := by
  obtain ⟨hne, hall⟩ := h
  induction w with
  | nil => exact absurd rfl hne
  | cons c w ih =>
    obtain ⟨⟨hc, -⟩, hw⟩ := List.forall_mem_cons.1 hall
    cases w with
    | nil => exact words_cons_alone hc (hrest c)
    | cons d w =>
      have hgoes : continuesWord c (d :: w ++ rest) = true := by
        obtain ⟨hd, hsmall⟩ := hw d List.mem_cons_self
        simp [continuesWord, startsWord, hd, hsmall]
      exact words_cons_joined hc hgoes (ih (List.cons_ne_nil d w) hw)

/-- **Plain words that are joined by a separator are found again.** -/
theorem words_intercalate {separator : Char} (hseparator : isAlphanumeric separator = false)
    {ws : List (List Char)} (h : ∀ w ∈ ws, IsPlain w) : words (List.intercalate [separator] ws) = ws := by
  induction ws with
  | nil => rfl
  | cons w ws ih =>
    obtain ⟨hw, hws⟩ := List.forall_mem_cons.1 h
    cases ws with
    | nil =>
      have hend : words (w ++ []) = [w] := words_append_of_isPlain hw fun _ => rfl
      rw [List.append_nil] at hend
      rw [List.intercalate_singleton, hend]
    | cons v ws =>
      have hstop : ∀ x, continuesWord x (separator :: List.intercalate [separator] (v :: ws)) = false := by
        intro x
        simp [continuesWord, hseparator]
      rw [List.intercalate_cons_cons, List.append_assoc, List.singleton_append, words_append_of_isPlain hw hstop,
        words_cons_separator hseparator, ih hws]

end Typeforge.Text
