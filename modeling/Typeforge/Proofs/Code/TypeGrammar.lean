import Typeforge.Proofs.Code.TypeTrees

/-!
# Types are read back

A type is read by the rules of the language: `[]` behind a type binds tighter than `&`, and `&` tighter than `|`. Of the
types that the language has, those that a generated file does not hold are refused.

* `readPostfixType_text`: what no connective joins is read to its end, with the brackets behind it;
* `readJoinedType_textIn`: so is what one joins, as soon as its parts are;
* `types_read_back`: the text of a type is read as its tree.
-/

namespace Typeforge.Code

open Text (joinWith)
open Identifier (languageWords)

/-! ### The rules -/

def keywords : List Keyword :=
  [.string, .number, .bigint, .boolean, .null, .undefined, .never, .void, .unknown]

def wordType? (w : String) : Option TypeTree :=
  match keywords.find? (·.text == w) with
  | some k => some (.keyword k)
  | none =>
    match wordLiteral? w with
    | some l => some (.literal l)
    | none => if languageWords.contains w || typeWords.contains w then none else some (.ref w)

def readSigned (A : Alphabet) : Reader String := fun cs =>
  match readSign '-' cs with
  | some rest => (readNumeral A rest).map fun (digits, rest) => (String.ofList ('-' :: digits), rest)
  | none => (readNumeral A cs).map fun (digits, rest) => (String.ofList digits, rest)

section

variable (A : Alphabet) (type : Reader TypeTree)

/-- The member of an object type at the front, with its type read by `type`. -/
def readTypeMember : Reader (Member TypeTree) := fun cs =>
  let (readonly, cs) := readMark (skip cs)
  (readKey cs).bind fun (name, rest) =>
    let (optional, rest) := readFlag '?' rest
    (readSign ':' rest).bind fun rest => (type rest).map fun (t, rest) => (⟨name, t, optional, readonly⟩, rest)

/-- The type that begins with the word. -/
def readNamed (w : String) : Reader TypeTree := fun cs =>
  match readSign '<' cs with
  | none => (wordType? w).map fun t => (t, cs)
  | some rest =>
    if w = "Record" then
      (readList ',' '>' type rest).bind fun (ts, rest) =>
        match ts with
        | [key, value] => some (.record key value, rest)
        | _ => none
    else none

/-- The type that begins with the sign at the front. -/
def readEnclosed : Reader TypeTree := fun cs =>
  match skip cs with
  | '(' :: rest => (type rest).bind fun (t, rest) => (readSign ')' rest).map fun rest => (t, rest)
  | '[' :: rest => (readList ',' ']' type rest).map fun (ts, rest) => (.tuple ts, rest)
  | '\x7b' :: rest => (readList ';' '\x7d' (readTypeMember type) rest).map fun (ms, rest) => (.object ms, rest)
  | _ => (readString cs).map fun (s, rest) => (.literal (.string s), rest)

/-- The type at the front, without what may stand behind it. -/
def readPrimaryType : Reader TypeTree := fun cs =>
  match readWord A cs with
  | some (w, rest) => readNamed type w rest
  | none =>
    match readSigned A cs with
    | some (text, rest) => some (.literal (.number text), rest)
    | none => readEnclosed type cs

/-- The two brackets behind the element of an array type. -/
def readBrackets : Reader Unit := fun cs =>
  (readSign '[' cs).bind fun rest => (readSign ']' rest).map fun rest => ((), rest)

/-- The array types, one in the other, of which the innermost has the element. -/
def arrays (element : TypeTree) (brackets : List Unit) : TypeTree :=
  brackets.foldl (fun t _ => .array t) element

def readPostfixType : Reader TypeTree := fun cs =>
  (readPrimaryType A type cs).bind fun (t, rest) =>
    (readSuffixes ['['] readBrackets (rest.length + 1) rest).map fun (brackets, rest) => (arrays t brackets, rest)

def Connective.sign : Connective → Char
  | .union => '|'
  | .intersection => '&'

/-- The types at the front that the connective joins, each of them read by `operand`. -/
def readJoinedType (c : Connective) (operand : Reader TypeTree) : Reader TypeTree := fun cs =>
  (readJoined c.sign operand ((skip cs).length + 1) (skip cs)).map fun (ts, rest) => (.join c ts, rest)

end

/-- The type at the front, in which types are nested less than `fuel` deep. -/
def readTypeWithin (A : Alphabet) : Nat → Reader TypeTree
  | 0, _ => none
  | fuel + 1, cs => readJoinedType .union (readJoinedType .intersection (readPostfixType A (readTypeWithin A fuel))) cs

def readType (A : Alphabet) : Reader TypeTree := fun cs => readTypeWithin A ((skip cs).length + 1) cs

def TypeTree.read? (A : Alphabet) (s : String) : Option TypeTree :=
  match readType A s.toList with
  | some (t, rest) => if (skip rest).isEmpty then some t else none
  | none => none

/-- The signs that go on with a type. -/
def typeSigns : List Char := ['|', '&', '[', '<']

/-- The keyword of that name stands for the literal `null`, too. -/
abbrev nullTree : TypeTree := .keyword .null

/-! ### Words and signs -/

section Pieces

variable {A : Alphabet} {type : Reader TypeTree} {w : String} {c : Char} {cs rest : List Char} {l : Literal}

theorem wordType?_keyword (k : Keyword) : wordType? k.text = some (.keyword k) := by
  have hfind : keywords.find? (·.text == k.text) = some k := by cases k <;> decide
  rw [wordType?, hfind]

theorem wordType?_ref (h : languageWords.contains w = false) (h' : typeWords.contains w = false) :
    wordType? w = some (.ref w) := by
  have hwords : ∀ k ∈ keywords, languageWords.contains k.text || typeWords.contains k.text := by decide
  have hnone : keywords.find? (·.text == w) = none := by
    rw [List.find?_eq_none]
    intro k hk hsame
    obtain rfl : k.text = w := by simpa using hsame
    have hword := hwords k hk
    rw [h, h'] at hword
    cases hword
  simp only [wordType?, hnone, wordLiteral?_eq_none h, h, h']
  rfl

theorem readNamed_word (hrest : Stops A ['<'] rest) : readNamed type w rest = (wordType? w).map fun t => (t, rest) := by
  simp only [readNamed, hrest.readSign (List.mem_singleton.2 rfl)]

theorem readPrimaryType_word (h : A.isName w = true) (hrest : ∀ c ∈ rest.head?, A.part c = false) :
    readPrimaryType A type (w.toList ++ rest) = readNamed type w rest := by
  simp only [readPrimaryType, readWord_append h hrest]

theorem readPrimaryType_sign (h : IsSign c) (hminus : c ≠ '-') (cs : List Char) :
    readPrimaryType A type (c :: cs) = readEnclosed type (c :: cs) := by
  simp only [readPrimaryType, readWord_sign A h, readSigned, readSign_ne h.2.2 hminus, readNumeral_sign A h,
    Option.map_none]

theorem readPrimaryType_number {negative : Bool} (h : l.numeral? = some (negative, cs)) (hrest : Stops A ['<'] rest) :
    readPrimaryType A type (l.text.toList ++ rest) = some (.literal l.tree, rest) := by
  obtain ⟨hnumeral, htext, htree⟩ := Literal.numeral?_text h
  have hread : readNumeral A (cs ++ rest) = some (cs, rest) :=
    readNumeral_append hnumeral hrest.part fun hpoint => absurd hpoint hrest.point
  have htext' : l.text = String.ofList ((if negative then ['-'] else []) ++ cs) := by
    rw [← htext, String.ofList_toList]
  rw [htree, htext, htext']
  cases negative with
  | true =>
    have hword : readWord A ('-' :: (cs ++ rest)) = none := readWord_sign A (by decide) _
    simp [readPrimaryType, hword, readSigned, readSign_self, hread]
  | false =>
    obtain ⟨d, more, rfl, hd⟩ := numeral_cons hnumeral
    have hminus : readSign '-' (d :: (more ++ rest)) = none :=
      readSign_ne (ne_of_isDigit hd (by decide)) (ne_of_isDigit hd (by decide)) _
    have hword : readWord A (d :: (more ++ rest)) = none := readWord_digit A hd _
    rw [List.cons_append] at hread
    simp [readPrimaryType, hword, readSigned, hminus, hread]

theorem readEnclosed_parenthesized (type : Reader TypeTree) (cs : List Char) : readEnclosed type ('(' :: cs) =
    (type cs).bind fun (t, rest) => (readSign ')' rest).map fun rest => (t, rest) := rfl

theorem readEnclosed_tuple (type : Reader TypeTree) (cs : List Char) : readEnclosed type ('[' :: cs) =
    (readList ',' ']' type cs).map fun (ts, rest) => (.tuple ts, rest) := rfl

theorem readEnclosed_object (type : Reader TypeTree) (cs : List Char) : readEnclosed type ('\x7b' :: cs) =
    (readList ';' '\x7d' (readTypeMember type) cs).map fun (ms, rest) => (.object ms, rest) := rfl

theorem readEnclosed_quoted (type : Reader TypeTree) (s : String) (rest : List Char) :
    readEnclosed type ((quoted s).toList ++ rest) = some (.literal (.string s), rest) := by
  have hstring : readEnclosed type ((quoted s).toList ++ rest) =
      (readString ((quoted s).toList ++ rest)).map fun (s, rest) => (.literal (.string s), rest) := by
    rw [toList_quoted]
    rfl
  rw [hstring, readString_append]
  rfl

end Pieces

/-! ### How a type begins -/

section Begins

variable {A : Alphabet} {w : String}

theorem beginsWith_memberText (name type : String) (optional readonly : Bool) :
    BeginsWith (· ∉ closers) (memberText name type optional readonly) := by
  unfold memberText
  cases readonly with
  | true => exact ⟨'r', _, by simp only [if_true, String.toList_append]; rfl, by decide⟩
  | false =>
    have hname : BeginsWith (· ∉ closers) ("" ++ propertyName name) := by
      rw [String.empty_append]
      exact (opens_propertyName .ascii name).of_opens
    exact ((hname.append _).append _).append _

theorem beginsWith_parenthesized (s : String) : BeginsWith (· ∉ closers) (parenthesized s) :=
  ⟨'(', s.toList ++ [')'], by simp [parenthesized], by decide⟩

theorem Ty.beginsWith_text {t : Ty} (h : t.proper A = true) : BeginsWith (· ∉ closers) t.text := by
  induction t using children_induction with
  | h t ih =>
    have hchild (u : Ty) (hu : u ∈ t.children) : BeginsWith (· ∉ closers) u.text := ih u hu (proper_children h hu)
    cases t with
    | keyword k => cases k <;> exact ⟨_, _, rfl, by decide⟩
    | literal l => exact (Literal.opens_text A h).of_opens
    | ref name =>
      obtain ⟨hname, -⟩ := Bool.and_eq_true_iff.1 (Bool.and_eq_true_iff.1 h).1
      exact (Alphabet.opens_of_isName hname).of_opens
    | array element =>
      rw [text]
      split
      · exact (beginsWith_parenthesized _).append _
      · exact (hchild element List.mem_cons_self).append _
    | tuple ts => exact ⟨'[', _, by simp only [text, String.toList_append, List.append_assoc]; rfl, by decide⟩
    | record key value => exact ⟨'R', _, by simp only [text, String.toList_append, List.append_assoc]; rfl, by decide⟩
    | object ms =>
      rw [text]
      split
      · exact ⟨_, _, rfl, by decide⟩
      · exact ⟨'\x7b', _, by simp only [String.toList_append, List.append_assoc]; rfl, by decide⟩
    | union ms =>
      obtain ⟨hne, -⟩ := Bool.and_eq_true_iff.1 h
      cases ms with
      | nil => cases hne
      | cons m ms => exact (hchild m List.mem_cons_self).joinWith _
    | intersection ms =>
      obtain ⟨hne, -⟩ := Bool.and_eq_true_iff.1 h
      cases ms with
      | nil => cases hne
      | cons m ms =>
        refine BeginsWith.joinWith ?_ _
        split
        · exact beginsWith_parenthesized _
        · exact hchild m List.mem_cons_self

end Begins

/-! ### Reading a type -/

theorem mapM_some {β γ : Type} (f : β → γ) (items : List β) : (items.mapM fun b => some (f b)) = some (items.map f) :=
  List.mapM_pure

section Reading

variable {A : Alphabet} {type : Reader TypeTree} {t : Ty} {l : Literal} {rest : List Char}

/-- Where a type may end, as far as any sign behind it could go on with it. -/
abbrev TypeStops (A : Alphabet) : List Char → Prop := Stops A typeSigns

theorem readList_types (hskips : ∀ cs, type (' ' :: cs) = type cs) {close : Char} (hclose : close = ']' ∨ close = '>')
    {ts : List Ty} (hproper : ∀ t ∈ ts, t.proper A = true)
    (htypes : ∀ t ∈ ts, Takes type (TypeStops A) t.text (some (t.tree nullTree))) (rest : List Char) :
    readList ',' close type ((joinWith ", " (ts.map Ty.text)).toList ++ close :: rest) =
      some (ts.map (Ty.tree nullTree), rest) := by
  have hlisted : Listed type (TypeStops A) ',' close := by
    rcases hclose with rfl | rfl <;> exact .of_stops hskips (by decide) (by decide) (by decide)
  have htail : TypeStops A (close :: rest) := by
    rcases hclose with rfl | rfl <;> exact stops_cons A (by decide) (by decide) rest
  have hself : readSign close (close :: rest) = some rest :=
    readSign_self (by rcases hclose with rfl | rfl <;> decide) rest
  rw [readList_joinWith hlisted rfl htail hself (fun t ht => Ty.beginsWith_text (hproper t ht)) htypes, mapM_some]
  rfl

theorem readTypeMember_text (m : Member Ty) (htype : Takes type (TypeStops A) m.type.text (some (m.type.tree nullTree)))
    (hskips : ∀ cs, type (' ' :: cs) = type cs) :
    Takes (readTypeMember type) (TypeStops A) (memberText m.name m.type.text m.optional m.readonly)
      (some ⟨m.name, m.type.tree nullTree, m.optional, m.readonly⟩) := by
  intro rest hrest
  obtain ⟨name, t, optional, readonly⟩ := m
  set behind : List Char := (if optional then ['?'] else []) ++ ':' :: ' ' :: (t.text.toList ++ rest) with hbehind
  have hpart : ∀ c ∈ behind.head?, Identifier.isPart c = false := by
    intro c hc
    cases optional <;> obtain rfl := Option.mem_some.1 hc <;> decide
  have hspace : behind.head? ≠ some ' ' := by cases optional <;> simp [hbehind]
  have htext : (memberText name t.text optional readonly).toList ++ rest =
      (if readonly then "readonly ".toList else []) ++ ((propertyName name).toList ++ behind) := by
    cases optional <;> cases readonly <;> simp [memberText, hbehind]
  have hmark : readMark (skip ((memberText name t.text optional readonly).toList ++ rest)) =
      (readonly, (propertyName name).toList ++ behind) := by
    rw [(beginsWith_memberText name t.text optional readonly).skip, htext]
    cases readonly with
    | false => exact readMark_propertyName name hpart hspace
    | true => exact readMark_marked _
  have hcolon : readSign '?' (':' :: ' ' :: (t.text.toList ++ rest)) = none := rfl
  have hread := htype rest hrest
  rw [readTypeMember, hmark]
  simp only [readKey_propertyName name hpart, Option.bind_some]
  simp [hbehind, readFlag_append _ hcolon, readSign_self, hskips, hread]

theorem readList_members (hskips : ∀ cs, type (' ' :: cs) = type cs) {ms : List (Member Ty)}
    (htypes : ∀ m ∈ ms, Takes type (TypeStops A) m.type.text (some (m.type.tree nullTree))) {tail : List Char}
    (htail : TypeStops A tail) (hclose : readSign '\x7d' tail = some rest) :
    readList ';' '\x7d' (readTypeMember type) ((joinWith "; " (memberTexts ms)).toList ++ tail) =
      some (memberTrees nullTree ms, rest) := by
  have hlisted : Listed (readTypeMember type) (TypeStops A) ';' '\x7d' :=
    .of_stops (fun _ => rfl) (by decide) (by decide) (by decide)
  rw [memberTexts_eq, readList_joinWith hlisted rfl htail hclose (fun m _ => beginsWith_memberText _ _ _ _)
    (fun m hm => readTypeMember_text m (htypes m hm) hskips), mapM_some, memberTrees_eq]
  rfl

theorem readPrimaryType_literal (h : l.isFinite = true) (hrest : Stops A ['<'] rest) :
    readPrimaryType A type (l.text.toList ++ rest) = some (l.typeTree nullTree, rest) := by
  have hword {w : String} {u : TypeTree} (hname : Identifier.isName w = true) (hw : wordType? w = some u) :
      readPrimaryType A type (w.toList ++ rest) = some (u, rest) := by
    rw [readPrimaryType_word (A.isName_of_ascii hname) hrest.part, readNamed_word hrest, hw]
    rfl
  cases l with
  | string s =>
    rw [Literal.text, toList_quoted, readPrimaryType_sign (by decide) (by decide), ← toList_quoted, readEnclosed_quoted]
    rfl
  | number _ => exact readPrimaryType_number rfl hrest
  | int _ => exact readPrimaryType_number rfl hrest
  | bool b => cases b <;> exact hword (by decide) rfl
  | null => exact hword (by decide) rfl
  | notANumber | infinity _ => cases h

theorem readPrimaryType_object (hskips : ∀ cs, type (' ' :: cs) = type cs) {ms : List (Member Ty)}
    (htypes : ∀ m ∈ ms, Takes type (TypeStops A) m.type.text (some (m.type.tree nullTree))) (rest : List Char) :
    readPrimaryType A type ((Ty.object ms).text.toList ++ rest) = some ((Ty.object ms).tree nullTree, rest) := by
  have hsign (cs : List Char) : readPrimaryType A type ('\x7b' :: cs) = readEnclosed type ('\x7b' :: cs) :=
    readPrimaryType_sign (by decide) (by decide) cs
  cases ms with
  | nil =>
    have hstops : TypeStops A ('\x7d' :: rest) := stops_cons A (by decide) (by decide) rest
    have hread := readList_members hskips htypes hstops (readSign_self (by decide) rest)
    have htext : (Ty.object []).text.toList ++ rest =
        '\x7b' :: ((joinWith "; " (memberTexts [])).toList ++ '\x7d' :: rest) := rfl
    rw [htext, hsign, readEnclosed_object, hread]
    rfl
  | cons m ms =>
    have hstops : TypeStops A (' ' :: '\x7d' :: rest) := stops_space A (by decide) (by decide) rest
    have hclose : readSign '\x7d' (' ' :: '\x7d' :: rest) = some rest := rfl
    have hread := readList_members hskips htypes hstops hclose
    have htext : (Ty.object (m :: ms)).text.toList ++ rest =
        '\x7b' :: ' ' :: ((joinWith "; " (memberTexts (m :: ms))).toList ++ ' ' :: '\x7d' :: rest) := by
      simp [Ty.text]
    rw [htext, hsign, readEnclosed_object, readList_space, hread]
    rfl

/-- **A type that is neither joined nor an array is read to its end**, as soon as what it is made of is. -/
theorem readPrimaryType_text (h : t.proper A = true) (hskips : ∀ cs, type (' ' :: cs) = type cs)
    (hjoined : ∀ c, t.members? c = none) (harray : ∀ element, t ≠ .array element)
    (hchildren : ∀ u ∈ t.children, Takes type (TypeStops A) u.text (some (u.tree nullTree))) :
    Takes (readPrimaryType A type) (Stops A ['<']) t.text (some (t.tree nullTree)) := by
  intro rest hrest
  have hproper (u : Ty) (hu : u ∈ t.children) : u.proper A = true := Ty.proper_children h hu
  cases t with
  | keyword k =>
    have hname : A.isName k.text = true := A.isName_of_ascii (by cases k <;> decide)
    rw [Ty.text, readPrimaryType_word hname hrest.part, readNamed_word hrest, wordType?_keyword]
    rfl
  | literal l => exact readPrimaryType_literal h hrest
  | ref name =>
    obtain ⟨hname, hwords⟩ := Bool.and_eq_true_iff.1 h
    obtain ⟨hname, hreserved⟩ := Bool.and_eq_true_iff.1 hname
    rw [Bool.not_eq_true'] at hwords hreserved
    rw [Ty.text, readPrimaryType_word hname hrest.part, readNamed_word hrest, wordType?_ref hreserved hwords]
    rfl
  | tuple ts =>
    have htext : (Ty.tuple ts).text.toList ++ rest =
        '[' :: ((joinWith ", " (ts.map Ty.text)).toList ++ ']' :: rest) := by
      simp [Ty.text, typeTexts_eq]
    have hread : readList ',' ']' type ((joinWith ", " (ts.map Ty.text)).toList ++ ']' :: rest) =
        some (ts.map (Ty.tree nullTree), rest) := readList_types hskips (.inl rfl) hproper hchildren rest
    rw [htext, readPrimaryType_sign (by decide) (by decide), readEnclosed_tuple, hread]
    simp [Ty.tree, typeTrees_eq]
  | object ms => exact readPrimaryType_object hskips (fun m hm => hchildren m.type (List.mem_map_of_mem hm)) rest
  | record key value =>
    have hword : A.isName "Record" = true := A.isName_of_ascii (by decide)
    have htext : (Ty.record key value).text.toList ++ rest =
        "Record".toList ++ '<' :: ((joinWith ", " ([key, value].map Ty.text)).toList ++ '>' :: rest) := by
      simp [Ty.text, joinWith]
    have hread : readList ',' '>' type ((joinWith ", " ([key, value].map Ty.text)).toList ++ '>' :: rest) =
        some ([key, value].map (Ty.tree nullTree), rest) := readList_types hskips (.inr rfl) hproper hchildren rest
    have hsign : IsSign '<' := by decide
    rw [htext, readPrimaryType_word hword (hsign.not_part A _), readNamed, readSign_self (by decide)]
    simp only [if_true, hread]
    rfl
  | array element => exact absurd rfl (harray element)
  | union ms => exact absurd (hjoined .union) (by simp [Ty.members?])
  | intersection ms => exact absurd (hjoined .intersection) (by simp [Ty.members?])

theorem readPrimaryType_parenthesized (h : Takes type (TypeStops A) t.text (some (t.tree nullTree))) :
    Takes (readPrimaryType A type) (Stops A ['<']) (parenthesized t.text) (some (t.tree nullTree)) := by
  intro rest _
  have htext : (parenthesized t.text).toList ++ rest = '(' :: (t.text.toList ++ ')' :: rest) := by simp [parenthesized]
  have hread := h (')' :: rest) (stops_cons A (by decide) (by decide) rest)
  rw [htext, readPrimaryType_sign (by decide) (by decide), readEnclosed_parenthesized, hread]
  rfl

end Reading

/-! ### Arrays -/

section Arrays

variable {A : Alphabet} {type : Reader TypeTree} {t u : Ty} {rest : List Char}

theorem readPostfixType_append {text : String} {element : TypeTree}
    (h : Takes (readPrimaryType A type) (Stops A ['<']) text (some element)) (brackets : List Unit)
    (hrest : Stops A ['[', '<'] rest) :
    readPostfixType A type (text.toList ++ ((brackets.flatMap fun _ => "[]".toList) ++ rest)) =
      some (arrays element brackets, rest) := by
  have hopen (cs : List Char) : Stops A ['<'] ('[' :: cs) := stops_cons A (by decide) (by decide) cs
  have hend : Stops A ['<'] rest := hrest.mono (by decide)
  have hprimary := h ((brackets.flatMap fun _ => "[]".toList) ++ rest) (by
    cases brackets with
    | nil => exact hend
    | cons _ brackets => exact hopen _)
  have hfuel : brackets.length < ((brackets.flatMap fun _ => "[]".toList) ++ rest).length + 1 := by
    have hlength : (brackets.flatMap fun _ => "[]".toList).length = brackets.length * 2 := by
      simp [List.length_flatMap]
    rw [List.length_append, hlength]
    omega
  have hsuffixes : readSuffixes ['['] readBrackets (((brackets.flatMap fun _ => "[]".toList) ++ rest).length + 1)
      ((brackets.flatMap fun _ => "[]".toList) ++ rest) =
        (brackets.mapM fun _ => some ()).map fun brackets => (brackets, rest) :=
    readSuffixes_append hend
      (fun c hc hsign => hrest.sign c hc (List.mem_cons.2 (.inl (List.mem_singleton.1 hsign))))
      (fun _ _ => ⟨'[', [']'], rfl, by decide⟩) (fun c cs hc => List.mem_singleton.1 hc ▸ hopen cs)
      (fun _ _ _ _ => rfl) hfuel
  have hsame : brackets.map (fun _ => ()) = brackets := List.map_id brackets
  rw [mapM_some, hsame] at hsuffixes
  rw [readPostfixType, hprimary]
  simp only [Option.map_some, Option.bind_some, hsuffixes]

/-- What a type is made of has a shorter text, unless the type joins it. -/
theorem Ty.length_text_lt (hjoined : ∀ c, t.members? c = none) (hu : u ∈ t.children) :
    u.text.length < t.text.length := by
  cases t with
  | keyword _ | literal _ | ref _ => cases hu
  | array element =>
    obtain rfl : u = element := List.mem_singleton.1 hu
    rw [text]
    split <;> simp only [parenthesized, String.length_append]
    · have hbrackets : "[]".length = 2 := rfl
      omega
    · have hbrackets : "[]".length = 2 := rfl
      omega
  | tuple ts =>
    have hle : u.text.length ≤ (joinWith ", " (typeTexts ts)).length :=
      le_length_joinWith (typeTexts_eq ts ▸ List.mem_map_of_mem hu)
    have hone : "[".length = 1 := rfl
    simp only [text, String.length_append]
    omega
  | object ms =>
    obtain ⟨m, hm, rfl⟩ := List.mem_map.1 hu
    have hmember : m.type.text.length ≤ (memberText m.name m.type.text m.optional m.readonly).length := by
      simp only [memberText, String.length_append]
      omega
    have hle : (memberText m.name m.type.text m.optional m.readonly).length ≤ (joinWith "; " (memberTexts ms)).length :=
      le_length_joinWith (memberTexts_eq ms ▸ List.mem_map_of_mem hm)
    have hne : ms.isEmpty = false := by
      cases ms with
      | nil => cases hm
      | cons _ _ => rfl
    have htwo : "\x7b ".length = 2 := rfl
    simp only [text, hne, Bool.false_eq_true, if_false, String.length_append]
    omega
  | record key value =>
    have hlong : "Record<".length = 7 := rfl
    simp only [text, String.length_append]
    rcases List.mem_pair.1 hu with rfl | rfl <;> omega
  | union ms => exact absurd (hjoined .union) (by simp [members?])
  | intersection ms => exact absurd (hjoined .intersection) (by simp [members?])

/-- **A type that is not joined is read to its end**, with the brackets behind it. -/
theorem readPostfixType_text (h : t.proper A = true) (hskips : ∀ cs, type (' ' :: cs) = type cs)
    (hjoined : ∀ c, t.members? c = none)
    (hread : ∀ u : Ty, u.proper A = true → u.text.length < t.text.length →
      Takes type (TypeStops A) u.text (some (u.tree nullTree)))
    (brackets : List Unit) (hrest : Stops A ['[', '<'] rest) :
    readPostfixType A type (t.text.toList ++ ((brackets.flatMap fun _ => "[]".toList) ++ rest)) =
      some (arrays (t.tree nullTree) brackets, rest) := by
  induction t using Ty.children_induction generalizing brackets with
  | h t ih =>
    have hchildren (u : Ty) (hu : u ∈ t.children) : Takes type (TypeStops A) u.text (some (u.tree nullTree)) :=
      hread u (Ty.proper_children h hu) (Ty.length_text_lt hjoined hu)
    by_cases harray : ∃ element, t = .array element
    · obtain ⟨element, rfl⟩ := harray
      have hmem : element ∈ (Ty.array element).children := List.mem_cons_self
      by_cases hloose : element.looserThanArray = true
      · have htext : (Ty.array element).text.toList ++ ((brackets.flatMap fun _ => "[]".toList) ++ rest) =
            (parenthesized element.text).toList ++ (((() :: brackets).flatMap fun _ => "[]".toList) ++ rest) := by
          simp [Ty.text, hloose]
        rw [htext, readPostfixType_append (readPrimaryType_parenthesized (hchildren element hmem)) _ hrest]
        rfl
      · have htext : (Ty.array element).text.toList ++ ((brackets.flatMap fun _ => "[]".toList) ++ rest) =
            element.text.toList ++ (((() :: brackets).flatMap fun _ => "[]".toList) ++ rest) := by
          simp [Ty.text, hloose]
        have htight : ∀ c, element.members? c = none := by
          intro c
          cases element with
          | union _ | intersection _ => exact absurd rfl hloose
          | keyword _ | literal _ | ref _ | array _ | tuple _ | object _ | record _ _ => rfl
        have hshorter := Ty.length_text_lt hjoined hmem
        rw [htext, ih element hmem (Ty.proper_children h hmem) htight
          (fun u hu hlt => hread u hu (hlt.trans hshorter))]
        rfl
    · exact readPostfixType_append
        (readPrimaryType_text h hskips hjoined (fun element heq => harray ⟨element, heq⟩) hchildren) brackets hrest

end Arrays

/-! ### Unions and intersections -/

section Joined

variable {A : Alphabet} {type operand : Reader TypeTree} {t p : Ty} {c : Connective} {signs : List Char} {n : Nat}

/-- Members that a connective joins are read as soon as each of them is. -/
theorem readJoinedType_textIn (c : Connective) (hskips : ∀ cs, operand (' ' :: cs) = operand cs)
    (hsign : c.sign ∉ signs) (h : t.proper A = true)
    (hparts : ∀ p ∈ t.parts c, Takes operand (Stops A signs) (p.textIn c) (some (p.tree nullTree))) :
    Takes (readJoinedType c operand) (Stops A (c.sign :: signs)) (t.textIn c) (some (t.tree nullTree)) := by
  intro rest hrest
  have hbegins : BeginsWith (· ∉ closers) (t.textIn c) := by
    cases c with
    | union => exact Ty.beginsWith_text h
    | intersection =>
      rw [Ty.textIn]
      split
      · exact beginsWith_parenthesized _
      · exact Ty.beginsWith_text h
  have hnull : Merged nullTree := .single fun _ => rfl
  have hspace : c.sign ≠ ' ' := by cases c <;> decide
  have hseparator : c.separator.toList = [' ', c.sign, ' '] := by cases c <;> rfl
  have hfuel : (t.parts c).length ≤ ((t.textIn c).toList ++ rest).length + 1 := by
    have hpositive : 0 < c.separator.length := by cases c <;> decide
    have hlength := length_le_joinWith hpositive ((t.parts c).map (Ty.textIn c))
    rw [← Ty.textIn_parts h, List.length_map] at hlength
    rw [List.length_append, String.length_toList]
    omega
  have hread := readJoined_joinWith hskips (fun cs => stops_space A hspace hsign cs) hspace hseparator
    (hrest.mono (List.subset_cons_self _ _)) (hrest.readSign List.mem_cons_self) (Ty.parts_ne_nil h) hparts hfuel
  rw [← Ty.textIn_parts h, mapM_some] at hread
  rw [readJoinedType, hbegins.skip, hread]
  simp only [Option.map_some, Ty.tree_parts hnull]

/-- A member of an intersection is read to its end: a union in its parentheses, any other type as it is. -/
theorem readPostfixType_textIn (hproper : p.proper A = true) (hskips : ∀ cs, type (' ' :: cs) = type cs)
    (hjoined : p.members? .intersection = none) (hlength : (p.textIn .intersection).length ≤ n)
    (hread : ∀ u : Ty, u.proper A = true → u.text.length < n →
      Takes type (TypeStops A) u.text (some (u.tree nullTree))) :
    Takes (readPostfixType A type) (Stops A ['[', '<']) (p.textIn .intersection) (some (p.tree nullTree)) := by
  intro rest hrest
  by_cases hunion : p.looserThanIntersection = true
  · have htext : p.textIn .intersection = parenthesized p.text := if_pos hunion
    have hshorter : p.text.length < n := by
      rw [htext, parenthesized] at hlength
      simp only [String.length_append] at hlength
      have hone : "(".length = 1 := rfl
      omega
    rw [htext]
    exact readPostfixType_append (readPrimaryType_parenthesized (hread p hproper hshorter)) [] hrest
  · have htext : p.textIn .intersection = p.text := if_neg hunion
    have hnone : ∀ c, p.members? c = none := by
      intro c
      cases p with
      | union _ => exact absurd rfl hunion
      | intersection _ => cases hjoined
      | keyword _ | literal _ | ref _ | array _ | tuple _ | object _ | record _ _ => rfl
    rw [htext] at hlength ⊢
    exact readPostfixType_text hproper hskips hnone (fun u hu hlt => hread u hu (hlt.trans_le hlength)) [] hrest

theorem readTypeWithin_space (A : Alphabet) (fuel : Nat) (cs : List Char) :
    readTypeWithin A fuel (' ' :: cs) = readTypeWithin A fuel cs := by
  cases fuel with
  | zero => rfl
  | succ fuel => rfl

/-- **A type is read to its end**, by the connectives that it may stand under. -/
theorem readTypeWithin_text (n : Nat) {t : Ty} (h : t.proper A = true) (hlength : t.text.length < n) :
    Takes (readTypeWithin A n) (TypeStops A) t.text (some (t.tree nullTree)) := by
  induction n generalizing t with
  | zero => cases hlength
  | succ n ih =>
    have hshorter {c : Connective} {t p : Ty} (h : t.proper A = true) (hp : p ∈ t.parts c) :
        (p.textIn c).length ≤ (t.textIn c).length := by
      rw [Ty.textIn_parts h]
      exact le_length_joinWith (List.mem_map_of_mem hp)
    refine readJoinedType_textIn .union (fun _ => rfl) (by decide) h fun p hp => ?_
    have hproper := Ty.proper_parts h hp
    have htext : p.textIn .intersection = p.textIn .union := by
      have hnone := Ty.members?_of_mem_parts hp
      cases p with
      | union _ => cases hnone
      | keyword _ | literal _ | ref _ | array _ | tuple _ | object _ | record _ _ | intersection _ => rfl
    have hle : (p.textIn .union).length ≤ (t.textIn .union).length := hshorter h hp
    rw [← htext] at hle ⊢
    refine readJoinedType_textIn .intersection (fun _ => rfl) (by decide) hproper fun q hq => ?_
    have hle' : (q.textIn .intersection).length ≤ (p.textIn .intersection).length := hshorter hproper hq
    exact readPostfixType_textIn (Ty.proper_parts hproper hq) (readTypeWithin_space A n) (Ty.members?_of_mem_parts hq)
      (by have : (t.textIn .union).length < n + 1 := hlength
          omega) fun u hu hlt => ih hu hlt

/-- **A type is read to its end.** -/
theorem readType_text {t : Ty} (h : t.proper A = true) :
    Takes (readType A) (TypeStops A) t.text (some (t.tree nullTree)) := by
  intro rest hrest
  rw [readType, (Ty.beginsWith_text h).skip]
  refine readTypeWithin_text _ h ?_ rest hrest
  rw [List.length_append, String.length_toList]
  omega

end Joined

/-- **Types are read back.** The text of a type is read as its tree, so that types with one text have one tree. -/
theorem types_read_back {A : Alphabet} {t : Ty} (h : t.proper A = true) :
    TypeTree.read? A t.text = some (t.tree nullTree) ∧
    ∀ u : Ty, u.proper A = true → u.text = t.text → u.tree nullTree = t.tree nullTree := by
  have hread {t : Ty} (h : t.proper A = true) : TypeTree.read? A t.text = some (t.tree nullTree) := by
    have htype := readType_text h [] (stops_nil A _)
    rw [List.append_nil] at htype
    rw [TypeTree.read?, htype]
    rfl
  refine ⟨hread h, fun u hu htext => ?_⟩
  have hsame : some (u.tree nullTree) = some (t.tree nullTree) := (hread hu).symm.trans (htext ▸ hread h)
  exact Option.some.inj hsame

/-- A type with connectives one in the other. -/
def nestedType : Ty :=
  .union [
    .union [.array (.union [.ref "Pet", .literal (.string "]")])],
    .intersection [.union [.ref "Cat", .ref "Dog"],
      .intersection [.object [⟨"a-b", .tuple [.literal (.int (-1)), .literal .null], true, true⟩]]]]

theorem nestedType_read :
    TypeTree.read? .ascii "(Pet | \"]\")[] | (Cat | Dog) & \x7b readonly \"a-b\"?: [-1, null] \x7d" =
      some (.joined .union [
        .array (.joined .union [.ref "Pet", .literal (.string "]")]),
        .joined .intersection [.joined .union [.ref "Cat", .ref "Dog"],
          .object [⟨"a-b", .tuple [.literal (.number "-1"), .keyword .null], true, true⟩]]]) ∧
    (Ty.union [.intersection [.ref "Cat"]]).tree nullTree = (Ty.ref "Cat").tree nullTree := by
  have hread := (types_read_back (t := nestedType) (A := .ascii) (by decide)).1
  have hsame := (types_read_back (t := .ref "Cat") (A := .ascii) (by decide)).2 (.union [.intersection [.ref "Cat"]])
    (by decide) rfl
  exact ⟨hread, hsame⟩

/-- The keyword `null` and the literal of that name are written alike, so that no reader tells them apart. -/
theorem null_untold : ¬ ∃ read : String → Option TypeTree, ∀ t : Ty, t.proper .ascii = true →
    read t.text = some (t.tree (.literal .null)) := by
  rintro ⟨read, hread⟩
  have hkeyword : read "null" = some (.keyword .null) := hread (.keyword .null) rfl
  have hliteral : read "null" = some (.literal .null) := hread (.literal .null) rfl
  rw [hkeyword] at hliteral
  cases hliteral

end Typeforge.Code
