import Mathlib.Data.List.Infix
import Typeforge.Code.Printer
import Typeforge.Proofs.Text.Replace
import Typeforge.Types.Shape
import Typeforge.Validator.Declaration

/-!
# Comments end where they are to end

A comment is closed by the star and the slash behind its last line and by nothing before them, whatever the text in it
is. The text is escaped as a whole. It falls into lines afterwards, and each line gets a star before it; what is in the
comment then is made of pieces in which a star is never next to a slash, and none of them begins with a slash.

* `escapeCommentChars_eq_replaceAll`: escaping is a replacement;
* `staysOpen_escapeCommentChars`: escaped text does not close a comment;
* `staysOpen_docLine`, `staysOpen_docLines`: nor do the lines that it is written in;
* `closesAtEnd_doc`: so a comment of such text is closed at its end;
* `comments_close_at_end`: the comments on the nodes are of such text.
-/

namespace Typeforge.Code

open Text (replaceAll replaceAll_append replaceAll_cons)

/-! ### The rules -/

/-- No star is next to a slash, so that a comment with this text in it is still open behind it. -/
def StaysOpen (cs : List Char) : Prop := ¬ ['*', '/'] <:+: cs

/-- What comes after the first star that is next to a slash. -/
def afterClosing : List Char → Option (List Char)
  | [] => none
  | c :: cs => if ['*', '/'].isPrefixOf (c :: cs) then some (cs.drop 1) else afterClosing cs

/-- What comes after the block comment at the front. -/
def afterComment (cs : List Char) : Option (List Char) := (['/', '*'].isPrefixOf? cs).bind afterClosing

/-- The text is a comment and a line feed. -/
structure ClosesAtEnd (text : List Char) : Prop where
  opens : ['/', '*', '*'] <+: text
  ends : ['*', '/', '\n'] <:+ text
  /-- Where it could be closed, there is nothing but the line feed left. -/
  once : ∀ before after, text = before ++ '*' :: '/' :: after → after = ['\n']
  /-- A reader goes on with what comes behind. -/
  reads : ∀ rest, afterComment (text ++ rest) = some ('\n' :: rest)

/-! ### Text that does not close a comment -/

section Open

variable {c : Char} {cs xs ys : List Char} {line : String}

theorem StaysOpen.of_infix (h : StaysOpen ys) (hxs : xs <:+: ys) : StaysOpen xs := fun hmem => h (hmem.trans hxs)

theorem staysOpen_cons : StaysOpen (c :: cs) ↔ ¬ (c = '*' ∧ cs.head? = some '/') ∧ StaysOpen cs := by
  have hfront : ['*', '/'] <+: c :: cs ↔ c = '*' ∧ cs.head? = some '/' := by
    rw [List.cons_prefix_cons, eq_comm]
    cases cs with
    | nil => simp
    | cons d cs => simp [List.cons_prefix_cons, eq_comm]
  rw [StaysOpen, List.infix_cons_iff, hfront, not_or, StaysOpen]

@[simp] theorem staysOpen_nil : StaysOpen [] := by simp [StaysOpen]

theorem StaysOpen.append (hxs : StaysOpen xs) (hys : StaysOpen ys) (hhead : ys.head? ≠ some '/') :
    StaysOpen (xs ++ ys) := by
  induction xs with
  | nil => exact hys
  | cons c xs ih =>
    obtain ⟨hfront, hxs⟩ := staysOpen_cons.1 hxs
    refine staysOpen_cons.2 ⟨fun hclose => ?_, ih hxs⟩
    cases xs with
    | nil => exact hhead hclose.2
    | cons d xs => exact hfront hclose

theorem head?_escapeCommentChars (cs : List Char) : (escapeCommentChars cs).head? = cs.head? := by
  unfold escapeCommentChars
  split <;> rfl

/-- **Escaped text does not close a comment**: by the steps of escaping. A star that is next to a slash gets a backslash
behind it, and any other keeps its neighbour. -/
theorem staysOpen_escapeCommentChars (cs : List Char) : StaysOpen (escapeCommentChars cs) := by
  induction cs using escapeCommentChars.induct with
  | case1 => exact staysOpen_nil
  | case2 cs ih =>
    rw [escapeCommentChars]
    have hslash : StaysOpen ('/' :: escapeCommentChars cs) := staysOpen_cons.2 ⟨by simp, ih⟩
    have hbackslash : StaysOpen ('\\' :: '/' :: escapeCommentChars cs) := staysOpen_cons.2 ⟨by simp, hslash⟩
    exact staysOpen_cons.2 ⟨by simp, hbackslash⟩
  | case3 c cs hother ih =>
    rw [escapeCommentChars]
    · refine staysOpen_cons.2 ⟨fun ⟨hstar, hslash⟩ => ?_, ih⟩
      rw [head?_escapeCommentChars] at hslash
      obtain ⟨tail, rfl⟩ := List.head?_eq_some_iff.1 hslash
      exact hother tail hstar rfl
    · exact hother

theorem escapeCommentChars_eq_replaceAll (cs : List Char) :
    escapeCommentChars cs = replaceAll '*' ['/'] ['*', '\\', '/'] cs := by
  induction cs using escapeCommentChars.induct with
  | case1 => simp [escapeCommentChars]
  | case2 cs ih =>
    have hreplace : replaceAll '*' ['/'] ['*', '\\', '/'] ('*' :: '/' :: cs) =
        ['*', '\\', '/'] ++ replaceAll '*' ['/'] ['*', '\\', '/'] cs := replaceAll_append cs
    rw [escapeCommentChars, hreplace, ih]
    rfl
  | case3 c cs hother ih =>
    have hfront : ¬ ['*', '/'] <+: c :: cs := by
      rintro ⟨tail, htail⟩
      obtain ⟨hstar, hrest⟩ := List.cons.inj htail
      exact hother tail hstar.symm hrest.symm
    rw [replaceAll_cons hfront, ← ih, escapeCommentChars]
    exact hother

theorem staysOpen_of_mem_lines {s : String} (h : StaysOpen s.toList) (hline : line ∈ Text.lines s) :
    StaysOpen line.toList := h.of_infix (Text.infix_of_mem_lines hline)

theorem head?_docLine (line : String) : (docLine line).toList.head? = some ' ' := by
  unfold docLine
  split <;> simp

theorem staysOpen_docLine (h : StaysOpen line.toList) : StaysOpen (docLine line).toList := by
  unfold docLine
  split
  · simp [staysOpen_cons]
  · have hend : StaysOpen (line.toList ++ ['\n']) := h.append (by simp [staysOpen_cons]) (by simp)
    simpa [staysOpen_cons] using hend

theorem staysOpen_docLines {lines : List String} (h : ∀ line ∈ lines, StaysOpen line.toList) :
    StaysOpen (String.join (lines.map docLine)).toList ∧
      (String.join (lines.map docLine)).toList.head? ≠ some '/' := by
  induction lines with
  | nil => simp
  | cons line lines ih =>
    obtain ⟨hrest, hslash⟩ := ih fun l hl => h l (List.mem_cons_of_mem _ hl)
    have hline : StaysOpen (docLine line).toList := staysOpen_docLine (h line List.mem_cons_self)
    rw [List.map_cons, String.join_cons, String.toList_append]
    refine ⟨hline.append hrest hslash, ?_⟩
    rw [List.head?_append, head?_docLine]
    simp

end Open

/-! ### Comments -/

section Comments

variable {body before after rest : List Char}

/-- Behind text that does not close a comment, only the closing does. -/
theorem eq_of_closing (hbody : StaysOpen body) (hrest : StaysOpen ('/' :: rest))
    (h : body ++ '*' :: '/' :: rest = before ++ '*' :: '/' :: after) : after = rest := by
  induction body generalizing before with
  | nil =>
    cases before with
    | nil =>
      obtain ⟨-, htail⟩ := List.cons.inj h
      exact (List.cons.inj htail).2.symm
    | cons b before =>
      -- the place would be in the rest
      have htail : '/' :: rest = before ++ '*' :: '/' :: after := (List.cons.inj h).2
      exact absurd ⟨before, after, by simp [htail]⟩ hrest
  | cons c body ih =>
    obtain ⟨hfront, hbody⟩ := staysOpen_cons.1 hbody
    cases before with
    | nil =>
      -- the place would begin with the first character of the body
      obtain ⟨hc, htail⟩ := List.cons.inj h
      cases body with
      | nil => exact absurd (List.cons.inj htail).1 (by decide)
      | cons d body => exact absurd ⟨hc, congrArg some (List.cons.inj htail).1⟩ hfront
    | cons b before => exact ih hbody (List.cons.inj h).2

theorem afterClosing_append (hbody : StaysOpen body) (hstar : body.getLast? ≠ some '*') :
    afterClosing (body ++ '*' :: '/' :: rest) = some rest := by
  induction body with
  | nil => rfl
  | cons c body ih =>
    obtain ⟨hfront, hbody⟩ := staysOpen_cons.1 hbody
    have hstar' : body.getLast? ≠ some '*' := by
      intro hlast
      exact hstar (by simp [List.getLast?_cons, hlast])
    have hprefix : ¬ ['*', '/'].isPrefixOf (c :: (body ++ '*' :: '/' :: rest)) = true := by
      intro hp
      have hpair := List.cons_prefix_cons.1 (List.isPrefixOf_iff_prefix.1 hp)
      cases body with
      | nil => exact absurd (List.cons_prefix_cons.1 hpair.2).1 (by decide)
      | cons d body => exact hfront ⟨hpair.1.symm, congrArg some (List.cons_prefix_cons.1 hpair.2).1.symm⟩
    rw [List.cons_append, afterClosing, if_neg hprefix]
    exact ih hbody hstar'

theorem toList_doc (paragraphs : List String) : (Stmt.doc paragraphs).text.toList =
    ('/' :: '*' :: '*' :: '\n' :: ((String.join ((paragraphs.flatMap Text.lines).map docLine)).toList ++ [' ']))
      ++ '*' :: '/' :: ['\n'] := by
  have htext : (Stmt.doc paragraphs).text =
      "/**\n" ++ String.join ((paragraphs.flatMap Text.lines).map docLine) ++ " */\n" := rfl
  rw [htext]
  generalize String.join ((paragraphs.flatMap Text.lines).map docLine) = written
  simp

/-- **A comment whose paragraphs do not close it is closed at its end.** -/
theorem closesAtEnd_doc {paragraphs : List String} (h : ∀ p ∈ paragraphs, StaysOpen p.toList) :
    ClosesAtEnd (Stmt.doc paragraphs).text.toList := by
  have hlines : ∀ line ∈ paragraphs.flatMap Text.lines, StaysOpen line.toList := by
    intro line hline
    obtain ⟨p, hp, hline⟩ := List.mem_flatMap.1 hline
    exact staysOpen_of_mem_lines (h p hp) hline
  obtain ⟨hopen, -⟩ := staysOpen_docLines hlines
  have htext := toList_doc paragraphs
  generalize (String.join ((paragraphs.flatMap Text.lines).map docLine)).toList = written at hopen htext
  -- what is behind the slash and the star of the opening, and before the star and the slash of the end
  have hinner : StaysOpen ('*' :: '\n' :: (written ++ [' '])) := by
    have hspace : StaysOpen (written ++ [' ']) := hopen.append (by simp [staysOpen_cons]) (by simp)
    have hfeed : StaysOpen ('\n' :: (written ++ [' '])) := staysOpen_cons.2 ⟨by simp, hspace⟩
    exact staysOpen_cons.2 ⟨by simp, hfeed⟩
  have hlast : ('*' :: '\n' :: (written ++ [' '])).getLast? ≠ some '*' := by
    rw [← List.cons_append, ← List.cons_append, List.getLast?_concat]
    simp
  have hbody : StaysOpen ('/' :: '*' :: '*' :: '\n' :: (written ++ [' '])) := by
    have hstar : StaysOpen ('*' :: '*' :: '\n' :: (written ++ [' '])) := staysOpen_cons.2 ⟨by simp, hinner⟩
    exact staysOpen_cons.2 ⟨by simp, hstar⟩
  rw [htext]
  refine ⟨?_, List.suffix_append _ _, fun before after hplace => ?_, fun rest => ?_⟩
  · exact ⟨'\n' :: (written ++ [' ']) ++ ['*', '/', '\n'], rfl⟩
  · exact eq_of_closing hbody (by simp [staysOpen_cons]) hplace
  · have hopening : ['/', '*'].isPrefixOf?
        (('/' :: '*' :: '*' :: '\n' :: (written ++ [' '])) ++ '*' :: '/' :: ['\n'] ++ rest) =
          some (('*' :: '\n' :: (written ++ [' '])) ++ '*' :: '/' :: '\n' :: rest) :=
      List.isPrefixOf?_eq_some_iff_append_eq.2 (by simp)
    rw [afterComment, hopening, Option.bind_some]
    exact afterClosing_append hinner hlast

end Comments

/-! ### The comments on nodes -/

section Nodes

variable {a : Schema.Attributes} {p : String}

theorem staysOpen_escapeComment (s : String) : StaysOpen (escapeComment s).toList := by
  rw [escapeComment, String.toList_ofList]
  exact staysOpen_escapeCommentChars s.toList

theorem staysOpen_deprecated : StaysOpen "@deprecated".toList := by simp [staysOpen_cons]

theorem staysOpen_of_mem_typeComment (h : p ∈ Types.commentOn a) : StaysOpen p.toList := by
  rcases List.mem_append.1 h with hdescription | hmark
  · obtain ⟨d, -, rfl⟩ := Option.map_eq_some_iff.1 (Option.mem_toList.1 hdescription)
    exact staysOpen_escapeComment d
  · split at hmark
    · obtain rfl := List.mem_singleton.1 hmark
      exact staysOpen_deprecated
    · cases hmark

theorem staysOpen_of_mem_validatorComment (h : p ∈ Validator.commentOn a) : StaysOpen p.toList := by
  rcases List.mem_append.1 h with htext | hmark
  · rcases List.mem_append.1 htext with htitle | hdescription
    · obtain ⟨t, -, rfl⟩ := Option.map_eq_some_iff.1 (Option.mem_toList.1 htitle)
      exact staysOpen_escapeComment t
    · split at hdescription
      · rename_i d _
        exact staysOpen_of_mem_lines (staysOpen_escapeComment d) hdescription
      · cases hdescription
  · split at hmark
    · obtain rfl := List.mem_singleton.1 hmark
      exact staysOpen_deprecated
    · cases hmark

/-- The comments on a node are closed at their ends, whatever the texts in them. -/
structure CommentsClose (n : Schema.Node) : Prop where
  /-- In a text, a backslash comes between each star and the slash next to it. -/
  escaped : ∀ s, escapeComment s = String.ofList (replaceAll '*' ['/'] ['*', '\\', '/'] s.toList)
  validators : ClosesAtEnd (Stmt.doc (Validator.commentOn n.toAttributes)).text.toList
  types : ClosesAtEnd (Stmt.doc (Types.commentOn n.toAttributes)).text.toList

/-- **Comments on nodes are closed at their ends**, those on validators and those on types: no text of a document goes
on behind a comment. -/
theorem comments_close_at_end (n : Schema.Node) : CommentsClose n where
  escaped := fun s => congrArg String.ofList (escapeCommentChars_eq_replaceAll s.toList)
  validators := closesAtEnd_doc fun _ hp => staysOpen_of_mem_validatorComment hp
  types := closesAtEnd_doc fun _ hp => staysOpen_of_mem_typeComment hp

end Nodes

end Typeforge.Code
