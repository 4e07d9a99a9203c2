import Mathlib.Data.List.Basic
import Typeforge.Proofs.Code.ObjectLiteral
import Typeforge.Proofs.Text.Replace

/-!
# Quoted texts and property names are read back

A string literal is one literal on one line, and what it says is the text that was put in quotes. The same holds of a
member of an object type: its name, its marks and its type can be told from its text.

* `flatMap_escapeChar_eq`: to escape a text is to replace five characters in it, one after the other;
* `says_escapeString`: the body of a literal says the text;
* `readMember_memberText`: a member reads back as itself;
* `texts_read_back`: the whole.
-/

namespace Typeforge.Code

open Text (replaceAll replaceAll_single)

/-! ### The rules -/

/-- What is replaced in a text that is put in quotes, with the character that comes after the backslash then. -/
def replacements : List (Char × Char) := [('\\', '\\'), ('"', '"'), ('\n', 'n'), ('\r', 'r'), ('\t', 't')]

/-- All replacements, one after the other. Each of them reads what those before it have written. -/
def escapedInTurn (cs : List Char) : List Char :=
  replacements.foldl (fun text (c, d) => replaceAll c [] ['\\', d] text) cs

/-- Whether a reader stands behind a backslash that takes the next character with it, once it has read the text;
`escaped` says whether it did so before. -/
def endsEscaped (escaped : Bool) : List Char → Bool
  | [] => escaped
  | c :: cs => endsEscaped (!escaped && c == '\\') cs

/-- The text `body`, put between quotes, is a string literal that says `s`. -/
structure Says (body s : String) : Prop where
  /-- What is read up to the quote behind the body is `s`, whatever follows there. -/
  reads (rest : List Char) : readQuoted false (body.toList ++ '"' :: rest) = some (s.toList, rest)
  oneLine : '\n' ∉ body.toList ∧ '\r' ∉ body.toList
  /-- A quote in the body has a backslash before it that takes it. -/
  quotes : ∀ before after, body.toList = before ++ '"' :: after → endsEscaped false before = true
  /-- The body has no backslash at its end that would take the quote behind it. -/
  complete : endsEscaped false body.toList = false

/-- Whether a member has the mark of what can only be read, and what comes after the mark. -/
def readMark (cs : List Char) : Bool × List Char :=
  match "readonly ".toList.isPrefixOf? cs with
  | some rest => (true, rest)
  | none => (false, cs)

/-- A member of an object type, read from its text. -/
def readMember (cs : List Char) : Option (Member String) :=
  let (readonly, cs) := readMark cs
  match readKey cs with
  | some (name, '?' :: ':' :: ' ' :: type) => some ⟨name, String.ofList type, true, readonly⟩
  | some (name, ':' :: ' ' :: type) => some ⟨name, String.ofList type, false, readonly⟩
  | _ => none

/-! ### The body of a literal -/

section Body

variable {s body : String} {cs rest : List Char}

theorem toList_escapeString (s : String) : (escapeString s).toList = s.toList.flatMap escapeChar :=
  String.toList_ofList

/-- **The replacements do not get in each other's way**: the backslashes are replaced first, and none of the others
finds its character in what was written for an earlier one. -/
theorem flatMap_escapeChar_eq (cs : List Char) : cs.flatMap escapeChar = escapedInTurn cs := by
  simp only [escapedInTurn, replacements, List.foldl_cons, List.foldl_nil, replaceAll_single, List.flatMap_assoc]
  refine congrArg (fun f => cs.flatMap f) ?_
  funext c
  unfold escapeChar
  split
  iterate 5 rfl
  rename_i hbackslash hquote hfeed hreturn htab
  rw [if_neg hbackslash, List.flatMap_singleton, if_neg hquote, List.flatMap_singleton, if_neg hfeed,
    List.flatMap_singleton, if_neg hreturn, List.flatMap_singleton, if_neg htab]

/-- A character stands for itself, or is written with a backslash before it. -/
theorem escapeChar_cases (c : Char) :
    (∃ d, escapeChar c = ['\\', d] ∧ d ≠ '\n' ∧ d ≠ '\r') ∨
      (escapeChar c = [c] ∧ c ≠ '\\' ∧ c ≠ '"' ∧ c ≠ '\n' ∧ c ≠ '\r') := by
  unfold escapeChar
  split
  iterate 5 exact .inl ⟨_, rfl, by decide, by decide⟩
  rename_i hbackslash hquote hfeed hreturn _
  exact .inr ⟨rfl, hbackslash, hquote, hfeed, hreturn⟩

theorem endsEscaped_escapeChar (c : Char) : endsEscaped false (escapeChar c ++ cs) = endsEscaped false cs := by
  rcases escapeChar_cases c with ⟨d, hc, -, -⟩ | ⟨hc, hbackslash, -, -, -⟩
  · rw [hc]
    rfl
  · have hne : (c == '\\') = false := beq_false_of_ne hbackslash
    simp [hc, endsEscaped, hne]

theorem endsEscaped_append (s : List Char) :
    endsEscaped false (s.flatMap escapeChar ++ cs) = endsEscaped false cs := by
  induction s with
  | nil => rfl
  | cons c s ih => rw [List.flatMap_cons, List.append_assoc, endsEscaped_escapeChar, ih]

theorem not_mem_flatMap_escapeChar {c : Char} (hc : c = '\n' ∨ c = '\r') (s : List Char) :
    c ∉ s.flatMap escapeChar := by
  intro hmem
  obtain ⟨e, -, he⟩ := List.mem_flatMap.1 hmem
  rcases escapeChar_cases e with ⟨d, hd, hfeed, hreturn⟩ | ⟨hd, -, -, hfeed, hreturn⟩
  · have hcase : c = '\\' ∨ c = d := by simpa [hd] using he
    rcases hc with rfl | rfl <;> rcases hcase with h | h
    · exact absurd h (by decide)
    · exact hfeed h.symm
    · exact absurd h (by decide)
    · exact hreturn h.symm
  · have hcase : c = e := by simpa [hd] using he
    rcases hc with rfl | rfl
    · exact hfeed hcase.symm
    · exact hreturn hcase.symm

/-- The quotes of the text are behind backslashes: by the characters of the text, with the place of the quote in what
is written for one of them or behind it. -/
theorem endsEscaped_of_quote {s before after : List Char} (h : s.flatMap escapeChar = before ++ '"' :: after) :
    endsEscaped false before = true := by
  induction s generalizing before with
  | nil => simp at h
  | cons c s ih =>
    rw [List.flatMap_cons] at h
    rcases escapeChar_cases c with ⟨d, hc, -, -⟩ | ⟨hc, hbackslash, hquote, -, -⟩
    · rw [hc] at h
      rcases before with _ | ⟨b, _ | ⟨e, before⟩⟩
      · exact absurd (List.cons.inj h).1 (by decide)
      · have hb : '\\' = b := (List.cons.inj h).1
        subst hb
        rfl
      · obtain ⟨hb, htail⟩ := List.cons.inj h
        have hrest : s.flatMap escapeChar = before ++ '"' :: after := (List.cons.inj htail).2
        have hbefore : endsEscaped false before = true := ih hrest
        subst hb
        exact hbefore
    · rw [hc] at h
      rcases before with _ | ⟨b, before⟩
      · exact absurd (List.cons.inj h).1 hquote
      · obtain ⟨hb, hrest⟩ := List.cons.inj h
        have hne : (b == '\\') = false := beq_false_of_ne (hb ▸ hbackslash)
        have hbefore : endsEscaped false (b :: before) = endsEscaped false before := by simp [endsEscaped, hne]
        rw [hbefore]
        exact ih hrest

/-- **What is between the quotes of a literal says the text.** -/
theorem says_escapeString (s : String) : Says (escapeString s) s where
  reads rest := by rw [toList_escapeString, readQuoted_append]
  oneLine := by
    rw [toList_escapeString]
    exact ⟨not_mem_flatMap_escapeChar (.inl rfl) _, not_mem_flatMap_escapeChar (.inr rfl) _⟩
  quotes before after h := by
    rw [toList_escapeString] at h
    exact endsEscaped_of_quote h
  complete := by
    have hend : endsEscaped false (s.toList.flatMap escapeChar ++ []) = endsEscaped false [] :=
      endsEscaped_append s.toList
    rwa [List.append_nil, ← toList_escapeString] at hend

theorem Says.unique {t : String} (hs : Says body s) (ht : Says body t) : s = t := by
  have hread : some (s.toList, ([] : List Char)) = some (t.toList, []) := (hs.reads []).symm.trans (ht.reads [])
  have hlist : s.toList = t.toList := (Prod.mk.inj (Option.some.inj hread)).1
  exact String.toList_inj.1 hlist

theorem escapeString_injective : Function.Injective escapeString := by
  intro s t h
  have hs : Says (escapeString t) s := h ▸ says_escapeString s
  exact hs.unique (says_escapeString t)

end Body

/-! ### Members of an object type -/

section Members

variable {rest : List Char}

theorem readKey_propertyName (name : String) (hrest : ∀ c ∈ rest.head?, Identifier.isPart c = false) :
    readKey ((propertyName name).toList ++ rest) = some (name, rest) := by
  unfold propertyName needsQuotes
  by_cases hname : Identifier.isName name = true
  · rw [if_neg (by simp [hname])]
    exact readKey_name hname hrest
  · rw [if_pos (by simpa using hname)]
    exact readKey_quoted

theorem propertyName_injective : Function.Injective propertyName := by
  intro s t h
  have hs : readKey ((propertyName s).toList ++ []) = some (s, []) := readKey_propertyName s (by simp)
  have ht : readKey ((propertyName t).toList ++ []) = some (t, []) := readKey_propertyName t (by simp)
  rw [h, ht] at hs
  exact (Prod.mk.inj (Option.some.inj hs)).1.symm

theorem readMark_marked (cs : List Char) : readMark ("readonly ".toList ++ cs) = (true, cs) := by
  rw [readMark, List.isPrefixOf?_eq_some_iff_append_eq.2 rfl]

/-- A member has no mark that it was not given: the name `readonly` has no space behind it. -/
theorem readMark_propertyName (name : String) (hrest : ∀ c ∈ rest.head?, Identifier.isPart c = false)
    (hspace : rest.head? ≠ some ' ') :
    readMark ((propertyName name).toList ++ rest) = (false, (propertyName name).toList ++ rest) := by
  have hnone : "readonly ".toList.isPrefixOf? ((propertyName name).toList ++ rest) = none := by
    refine Option.eq_none_iff_forall_ne_some.2 fun more hmore => hspace ?_
    have htext : "readonly".toList ++ ' ' :: more = (propertyName name).toList ++ rest := by
      simpa using List.isPrefixOf?_eq_some_iff_append_eq.1 hmore
    have hword : readKey ("readonly".toList ++ ' ' :: more) = some ("readonly", ' ' :: more) :=
      readKey_name (by decide) fun c hc => by
        obtain rfl := Option.mem_some.1 hc
        decide
    rw [htext, readKey_propertyName name hrest] at hword
    rw [(Prod.mk.inj (Option.some.inj hword)).2, List.head?_cons]
  rw [readMark, hnone]

/-- **A member reads back as itself**: its name, its type, and whether it is optional and read-only. -/
theorem readMember_memberText (m : Member String) :
    readMember (memberText m.name m.type m.optional m.readonly).toList = some m := by
  obtain ⟨name, type, optional, readonly⟩ := m
  set rest : List Char := (if optional then ['?'] else []) ++ ':' :: ' ' :: type.toList with hrest
  have hpart : ∀ c ∈ rest.head?, Identifier.isPart c = false := by
    intro c hc
    cases optional <;> obtain rfl := Option.mem_some.1 hc <;> decide
  have hspace : rest.head? ≠ some ' ' := by cases optional <;> simp [hrest]
  have htext : (memberText name type optional readonly).toList =
      (if readonly then "readonly ".toList else []) ++ ((propertyName name).toList ++ rest) := by
    cases optional <;> cases readonly <;> simp [memberText, hrest]
  have hmark : readMark ((memberText name type optional readonly).toList) =
      (readonly, (propertyName name).toList ++ rest) := by
    rw [htext]
    cases readonly with
    | false => exact readMark_propertyName name hpart hspace
    | true => exact readMark_marked _
  rw [readMember, hmark]
  simp only [readKey_propertyName name hpart]
  cases optional <;> simp [hrest]

end Members

/-- **Texts read back.** A string literal is a single literal that says its text, so that different texts are written
in different ways; and a property name denotes the property, so that different names are. -/
theorem texts_read_back :
    (∀ s, (Literal.string s).text = "\"" ++ escapeString s ++ "\"") ∧
    (∀ s, (escapeString s).toList = escapedInTurn s.toList) ∧
    (∀ s, Says (escapeString s) s) ∧
    Function.Injective escapeString ∧
    (∀ m : Member String, readMember (memberText m.name m.type m.optional m.readonly).toList = some m) ∧
    Function.Injective propertyName := by
  refine ⟨fun s => rfl, fun s => ?_, says_escapeString, escapeString_injective, readMember_memberText,
    propertyName_injective⟩
  rw [toList_escapeString, flatMap_escapeChar_eq]

end Typeforge.Code
