import Typeforge.Naming.Case
import Typeforge.Proofs.Text.Words

/-!
# The words of a name in snake case

An ASCII text in snake case falls into the words of the text again, each in small letters, since nothing in them is a
capital any more. So another time makes no difference.
-/

namespace Typeforge.Text

/-! ### Small letters of ASCII -/

section Ascii

variable {c : Char} {w s : List Char}

theorem forall_ascii {P : Char → Prop} (h : ∀ n < 128, P (Char.ofNat n)) (hc : c.toNat < 128) : P c :=
  Char.ofNat_toNat c ▸ h c.toNat hc

theorem toLower_ascii (hc : c.toNat < 128) : isUppercase c.toLower = false ∧
    isAlphanumeric c.toLower = isAlphanumeric c ∧ c.toLower.toLower = c.toLower :=
  forall_ascii (P := fun c => isUppercase c.toLower = false ∧ isAlphanumeric c.toLower = isAlphanumeric c ∧
    c.toLower.toLower = c.toLower) (by decide +kernel) hc

theorem toNat_toLower_lt (hc : c.toNat < 128) : c.toLower.toNat < 128 :=
  forall_ascii (P := fun c => c.toLower.toNat < 128) (by decide +kernel) hc

theorem lowerFrom_ascii (before : List Char) (h : ∀ c ∈ w, c.toNat < 128) :
    lowerFrom before w = w.map Char.toLower := by
  induction w generalizing before with
  | nil => rfl
  | cons c w ih =>
    obtain ⟨hc, hw⟩ := List.forall_mem_cons.1 h
    have hsigma : c ≠ 'Σ' := by
      rintro rfl
      exact absurd hc (by decide)
    rw [lowerFrom, if_neg hsigma, lowerChar, if_pos hc, ih _ hw]
    rfl

theorem lowerWord_ascii (h : ∀ c ∈ w, c.toNat < 128) : lowerWord w = w.map Char.toLower := lowerFrom_ascii [] h

theorem map_toLower_ascii (h : ∀ c ∈ w, c.toNat < 128) :
    (w.map Char.toLower).map Char.toLower = w.map Char.toLower := by
  rw [List.map_map]
  exact List.map_congr_left fun c hc => (toLower_ascii (h c hc)).2.2

theorem isPlain_toLower (hs : ∀ c ∈ s, c.toNat < 128) (hw : w ∈ words s) : IsPlain (w.map Char.toLower) := by
  refine ⟨by simpa using ne_nil_of_mem_words hw, ?_⟩
  rw [List.forall_mem_map]
  intro c hc
  obtain ⟨hmem, halnum⟩ := mem_of_mem_words hw hc
  obtain ⟨hsmall, hsame, -⟩ := toLower_ascii (hs c hmem)
  exact ⟨hsame.trans halnum, hsmall⟩

end Ascii

end Typeforge.Text

namespace Typeforge.Naming

open Text

section Snake

variable {s : String}

theorem toList_snake (hs : ∀ c ∈ s.toList, c.toNat < 128) :
    (Case.snake.apply s).toList = List.intercalate ['_'] ((words s.toList).map (List.map Char.toLower)) := by
  have hlower : (words s.toList).map lowerWord = (words s.toList).map (List.map Char.toLower) :=
    List.map_congr_left fun w hw => lowerWord_ascii fun c hc => hs c (mem_of_mem_words hw hc).1
  rw [Case.apply, String.toList_ofList, hlower]

/-- The words of a text are found again in its snake case. -/
theorem words_snake (hs : ∀ c ∈ s.toList, c.toNat < 128) :
    words (Case.snake.apply s).toList = (words s.toList).map (List.map Char.toLower) := by
  rw [toList_snake hs]
  refine words_intercalate (by decide) ?_
  rw [List.forall_mem_map]
  exact fun w hw => isPlain_toLower hs hw

theorem snake_snake (hs : ∀ c ∈ s.toList, c.toNat < 128) :
    Case.snake.apply (Case.snake.apply s) = Case.snake.apply s := by
  have hsmall : (words (Case.snake.apply s).toList).map lowerWord = words (Case.snake.apply s).toList := by
    rw [words_snake hs, List.map_map]
    refine List.map_congr_left fun w hw => ?_
    have hw : ∀ c ∈ w, c.toNat < 128 := fun c hc => hs c (mem_of_mem_words hw hc).1
    rw [Function.comp_apply, lowerWord_ascii (List.forall_mem_map.2 fun c hc => toNat_toLower_lt (hw c hc)),
      map_toLower_ascii hw]
  calc Case.snake.apply (Case.snake.apply s)
      = String.ofList (List.intercalate ['_'] ((words (Case.snake.apply s).toList).map lowerWord)) := rfl
    _ = String.ofList (List.intercalate ['_'] ((words s.toList).map (List.map Char.toLower))) := by
      rw [hsmall, words_snake hs]
    _ = Case.snake.apply s := by rw [← toList_snake hs, String.ofList_toList]

/-- **How a text falls into words.** No word is empty, all of them are the letters and numbers of the text, and of two
that are side by side the second begins a word just if they are parted. What snake case makes of an ASCII text falls
into the same words, in small letters, so that another time changes nothing. -/
theorem words_split (s : String) :
    (∀ w ∈ words s.toList, w ≠ []) ∧ (words s.toList).flatten = s.toList.filter isAlphanumeric ∧
    (∀ before c d after, s.toList = before ++ c :: d :: after →
      isAlphanumeric c = true → isAlphanumeric d = true →
      (Apart before c d after ↔ Parted c d after) ∧ (Together before c d after ↔ ¬ Parted c d after)) ∧
    ((∀ c ∈ s.toList, c.toNat < 128) →
      words (Case.snake.apply s).toList = (words s.toList).map (List.map Char.toLower) ∧
      Case.snake.apply (Case.snake.apply s) = Case.snake.apply s) :=
  ⟨fun _ => ne_nil_of_mem_words, flatten_words s.toList,
    fun _ _ _ _ _ hc hd => ⟨apart_iff hc hd, together_iff hc hd⟩, fun hs => ⟨words_snake hs, snake_snake hs⟩⟩

/-- An acronym, a separator and a digit before a capital. -/
theorem httpServer_split :
    "HTTPServer-2Go".toList = "HTT".toList ++ 'P' :: 'S' :: "erver-2Go".toList ∧
    isAlphanumeric 'P' = true ∧ isAlphanumeric 'S' = true ∧
    Apart "HTT".toList 'P' 'S' "erver-2Go".toList ∧ ¬ Together "HTT".toList 'P' 'S' "erver-2Go".toList ∧
    (∀ c ∈ "HTTPServer-2Go".toList, c.toNat < 128) ∧
    words (Case.snake.apply "HTTPServer-2Go").toList =
      ["http".toList, "server".toList, "2".toList, "go".toList] ∧
    Case.snake.apply (Case.snake.apply "HTTPServer-2Go") = Case.snake.apply "HTTPServer-2Go" := by
  obtain ⟨-, -, hcuts, hsnake⟩ := words_split "HTTPServer-2Go"
  have hascii : ∀ c ∈ "HTTPServer-2Go".toList, c.toNat < 128 := by
    have hall : "HTTPServer-2Go".toList.all (fun c => decide (c.toNat < 128)) = true := by decide +kernel
    simpa only [List.all_eq_true, decide_eq_true_eq] using hall
  have hparted : Parted 'P' 'S' "erver-2Go".toList := .inr ⟨by decide, by decide, 'e', by decide +kernel, by decide⟩
  obtain ⟨hapart, htogether⟩ :=
    hcuts "HTT".toList 'P' 'S' "erver-2Go".toList (by decide +kernel) (by decide) (by decide)
  obtain ⟨hwords, htwice⟩ := hsnake hascii
  refine ⟨by decide +kernel, by decide, by decide, hapart.2 hparted, fun h => htogether.1 h hparted, hascii, ?_, htwice⟩
  rw [hwords]
  decide +kernel

end Snake

end Typeforge.Naming
