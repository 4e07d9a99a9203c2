import Typeforge.Proofs.Code.Patterns
import Typeforge.Validator.Outline

/-!
# The patterns of texts

The validator of a text calls `v.regex` with the pattern of its node between slashes. That is one literal, ending at
the last slash, just if the pattern can stand there (`patterns_written`): a pattern in which a line ends, or that begins
with a star, or that leaves a backslash or a class open at its end, is written as it is and cannot be read.
-/

namespace Typeforge.Validator

open Code Schema

/-- The parts of the validator of a text before its pattern. -/
def textParts (a : Attributes) : List Expr :=
  Maker.string.apply [] :: ((a.format.bind Action.ofFormat?).map fun f => f.apply []).toList
    ++ lengthActions a.minLength a.maxLength

/-- How the pattern `p` of a node is written. -/
structure WritesPattern (n : Node) (p : String) : Prop where
  /-- The call stands last in the validator, unless that is of a constant or of a wide number. -/
  validator : isWide n.format = false → constantValidator? n.toAttributes .string = none →
    ∀ metadata, base metadata n = .closed (pipe (textParts n.toAttributes ++ [Action.regex.apply [.regex p]]))
  text : (Expr.regex p).text = "/" ++ String.ofList ((markedFrom false p.toList).map Prod.fst) ++ "/"
  /-- The text is one literal just if the pattern can stand between slashes. -/
  literal_iff : (∃ body, readRegex (Expr.regex p).text.toList = some (body, [])) ↔ Enclosable p
  /-- The literal holds all that is between the slashes. -/
  body : ∀ body, readRegex (Expr.regex p).text.toList = some (body, []) → body = (escapeRegex p).toList
  /-- Without what is marked in the text, the pattern is left, -/
  kept : ((markedFrom false p.toList).filter fun x => !x.2).map Prod.fst = p.toList
  /-- and only backslashes are marked, each before a slash that no other one takes. -/
  marked : ∀ before after d, markedFrom false p.toList = before ++ (d, true) :: after →
    d = '\\' ∧ after.head? = some ('/', false) ∧ endsEscaped false (before.map Prod.fst) = false
  /-- Nothing is left to escape. -/
  settled : escapeRegex (escapeRegex p) = escapeRegex p

section Patterns

variable {n : Node} {p : String}

theorem toList_text_regex (p : String) : (Expr.regex p).text.toList = '/' :: ((escapeRegex p).toList ++ ['/']) := by
  simp [Expr.text]

theorem stringValidator_pattern {a : Attributes} (hpattern : a.pattern = some p) (hne : p ≠ "") :
    stringValidator a = pipe (textParts a ++ [Action.regex.apply [.regex p]]) := by
  have hactions : patternActions a = [Action.regex.apply [.regex p]] := by
    unfold patternActions
    rw [hpattern]
    exact if_neg (by simpa using hne)
  rw [stringValidator, hactions]
  rfl

/-- **The pattern of a text is written as one literal** just if it can stand between slashes. -/
theorem patterns_written (hkind : n.kind = some .string) (hpattern : n.pattern = some p) (hne : p ≠ "") :
    WritesPattern n p where
  validator hwide hconst metadata := by
    have hbase : base metadata n = kindBase metadata n .string := by
      rw [base]
      simp only [hkind, hconst]
    rw [hbase, kindBase, if_neg (by simp [hwide]), stringValidator_pattern hpattern hne]
  text := by
    rw [map_markedFrom]
    rfl
  literal_iff := by
    rw [toList_text_regex]
    refine ⟨fun h => ?_, fun h => ⟨_, h.reads⟩⟩
    obtain ⟨body, hread⟩ := h
    exact enclosable_of_reads hne hread
  body body hread := by
    rw [toList_text_regex] at hread
    have hself := (enclosable_of_reads hne hread).reads.symm.trans hread
    exact (Prod.mk.inj (Option.some.inj hself)).1.symm
  kept := filter_markedFrom
  marked _ _ _ h := marked_inserted h
  settled := escapeRegex_escapeRegex p

end Patterns

/-- A text with a path for its pattern. One slash has its backslash, one is in a class. -/
def pathNode : Node := { kind := some .string, pattern := some "^a/b\\/[/c]$" }

theorem pathNode_pattern : pathNode.kind = some .string ∧ pathNode.pattern = some "^a/b\\/[/c]$" ∧
    WritesPattern pathNode "^a/b\\/[/c]$" ∧ (Expr.regex "^a/b\\/[/c]$").text = "/^a\\/b\\/[\\/c]$/" ∧
    Enclosable "^a/b\\/[/c]$" := by
  refine ⟨rfl, rfl, patterns_written rfl rfl (by decide), by decide, by decide⟩

/-- The pattern of two lines, the star and the lone backslash are no literals as they are written, although a
backslash more, or one and a letter in the place of the line feed, makes them such. -/
theorem patterns_unread :
    readRegex (Expr.regex "a\nb").text.toList = none ∧ readRegex "/a\\nb/".toList = some ("a\\nb".toList, []) ∧
    readRegex (Expr.regex "*").text.toList = none ∧ readRegex "/\\*/".toList = some ("\\*".toList, []) ∧
    readRegex (Expr.regex "a\\").text.toList = none ∧ readRegex "/a\\\\/".toList = some ("a\\\\".toList, []) := by
  decide

end Typeforge.Validator
