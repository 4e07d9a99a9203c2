import Typeforge.Proofs.Code.ExprTrees

/-!
# Reading expressions

An expression is read by the rules of the language, with as many suffixes as follow. What is in parentheses before an
arrow is the parameters of a function, and the function ends where its body does. Whatever is read here the language
reads the same way, but it has more: operators, blocks and exponents are refused.

* `readArrowHead_text`: the parameters of a function are read up to its body;
* `readSuffix_text`: a suffix is read to its end;
* `readPrimary_text`: so is what no suffix ends, as soon as what it is made of is.
-/

namespace Typeforge.Code

open Text (joinWith)
open Identifier (languageWords)

/-! ### The rules -/

section

variable (A : Alphabet) (expr : Reader ExprTree)

/-- A parameter, with its mark and its type if it has them. -/
def readParam : Reader ParamTree := fun cs =>
  (readWord A cs).bind fun (name, rest) =>
    if languageWords.contains name then none
    else
      let (optional, rest) := readFlag '?' rest
      match readSign ':' rest with
      | some rest => (readType A rest).map fun (t, rest) => (⟨name, some t, optional⟩, rest)
      | none => some (⟨name, none, optional⟩, rest)

/-- Parameters in parentheses, with the arrow behind them. -/
def readArrowHead : Reader (List ParamTree) := fun cs =>
  (readSign '(' cs).bind fun rest => (readList ',' ')' (readParam A) rest).bind fun (params, rest) =>
    match skip rest with
    | '=' :: '>' :: rest => some (params, rest)
    | _ => none

def readSuffix : Reader (Suffix ExprTree) := fun cs =>
  match skip cs with
  | '.' :: rest => (readWord A rest).map fun (property, rest) => (.member property, rest)
  | '(' :: rest => (readList ',' ')' expr rest).map fun (args, rest) => (.call args, rest)
  | _ => none

def readPropertyKey : Reader Key := fun cs =>
  match readWord A cs with
  | some (w, rest) => some (.ident w, rest)
  | none =>
    match readNumeral A cs with
    | some (digits, rest) => some (.num (String.ofList digits), rest)
    | none => (readString cs).map fun (s, rest) => (.str s, rest)

def readPair : Reader (Key × ExprTree) := fun cs =>
  (readPropertyKey A cs).bind fun (key, rest) =>
    (readSign ':' rest).bind fun rest => (expr rest).map fun (e, rest) => ((key, e), rest)

/-- The expression that a word stands for. -/
def wordExpr? (w : String) : Option ExprTree :=
  match wordLiteral? w with
  | some l => some (.literal l)
  | none => if languageWords.contains w then none else some (.ident w)

/-- The expression that begins with the sign at the front. A regular expression has no flags. -/
def readDelimited : Reader ExprTree := fun cs =>
  match skip cs with
  | '(' :: rest => (expr rest).bind fun (e, rest) => (readSign ')' rest).map fun rest => (e, rest)
  | '[' :: rest => (readList ',' ']' expr rest).map fun (items, rest) => (.array items, rest)
  | '\x7b' :: rest => (readList ',' '\x7d' (readPair A expr) rest).map fun (pairs, rest) => (.object pairs, rest)
  | '/' :: rest =>
    (readRegex ('/' :: rest)).bind fun (body, rest) =>
      if rest.head?.any A.part then none else some (.regex (String.ofList body), rest)
  | _ => (readString cs).map fun (s, rest) => (.literal (.string s), rest)

/-- The expression at the front, without what may go on with it. -/
def readPrimary : Reader ExprTree := fun cs =>
  match readWord A cs with
  | some (w, rest) => (wordExpr? w).map fun e => (e, rest)
  | none =>
    match readNumeral A cs with
    | some (digits, rest) => some (.literal (.number (String.ofList digits)), rest)
    | none => readDelimited A expr cs

/-- The signs that go on with an expression. -/
def suffixSigns : List Char := ['.', '(']

end

/-- The expression at the front, in which expressions are nested less than `fuel` deep. A brace behind an arrow is none
of an object. -/
def readExprWithin (A : Alphabet) : Nat → Reader ExprTree
  | 0, _ => none
  | fuel + 1, cs =>
    match readArrowHead A cs with
    | some (params, rest) =>
      if (readSign '\x7b' rest).isSome then none
      else (readExprWithin A fuel rest).map fun (body, rest) => (.arrow params body, rest)
    | none =>
      (readPrimary A (readExprWithin A fuel) cs).bind fun (e, rest) =>
        (readSuffixes suffixSigns (readSuffix A (readExprWithin A fuel)) (rest.length + 1) rest).map fun (ss, rest) =>
          (e.attach ss, rest)

/-- The tree of the expression that the whole text is. -/
def ExprTree.read? (A : Alphabet) (s : String) : Option ExprTree :=
  match readExprWithin A (s.length + 1) s.toList with
  | some (e, rest) => if (skip rest).isEmpty then some e else none
  | none => none

section

variable (A : Alphabet)

def Key.proper : Key → Bool
  | .ident name => A.isName name
  | .str _ => true
  | .num name => isDigits name.toList && isDecimal name.toList

def Param.proper (p : Param) : Bool := A.isIdentifier p.name && p.type.all (Ty.proper A)

mutual

/-- Whether the expression can be written: a name is one, a number is finite, and a pattern can stand between
slashes. -/
def Expr.proper : Expr → Bool
  | .ident name => A.isIdentifier name
  | .literal l => l.isFinite
  | .call callee args => callee.proper && properExprs args
  | .arrow params body => params.all (Param.proper A) && body.proper
  | .object properties => properProperties properties
  | .member receiver property => receiver.proper && A.isName property
  | .array items => properExprs items
  | .regex pattern => decide (Enclosable pattern)

def properExprs : List Expr → Bool
  | [] => true
  | e :: es => e.proper && properExprs es

def properProperties : List (Key × Expr) → Bool
  | [] => true
  | (k, e) :: ps => k.proper A && e.proper && properProperties ps

end

def Suffix.proper : Suffix Expr → Bool
  | .member property => A.isName property
  | .call args => properExprs A args

end

def Suffix.text : Suffix Expr → String
  | .member property => "." ++ property
  | .call args => "(" ++ joinWith ", " (exprTexts args) ++ ")"

/-- What a suffix is read as. -/
def Suffix.reading : Suffix Expr → Option (Suffix ExprTree)
  | .member property => some (.member property)
  | .call args => (readings args).map .call

/-- Where an expression may end. -/
abbrev ExprStops (A : Alphabet) : List Char → Prop := Stops A suffixSigns

/-! ### Lists of expressions -/

section Lists

variable {A : Alphabet} {e u : Expr}

theorem exprTexts_eq (es : List Expr) : exprTexts es = es.map Expr.text := by
  induction es with
  | nil => rfl
  | cons e es ih => simp [exprTexts, ih]

theorem properExprs_iff {es : List Expr} : properExprs A es = true ↔ ∀ e ∈ es, e.proper A = true := by
  induction es with
  | nil => simp [properExprs]
  | cons e es ih => simp [properExprs, ih]

theorem properProperties_iff {ps : List (Key × Expr)} :
    properProperties A ps = true ↔ ∀ p ∈ ps, p.1.proper A = true ∧ p.2.proper A = true := by
  induction ps with
  | nil => simp [properProperties]
  | cons p ps ih => simp [properProperties, ih]

theorem Expr.proper_children (h : e.proper A = true) (hu : u ∈ e.children) : u.proper A = true := by
  cases e with
  | ident _ | literal _ | regex _ => simp [children] at hu
  | call callee args =>
    obtain ⟨hcallee, hargs⟩ := Bool.and_eq_true_iff.1 h
    rcases List.mem_cons.1 hu with rfl | hu
    · exact hcallee
    · exact properExprs_iff.1 hargs u hu
  | arrow params body =>
    obtain rfl : u = body := List.mem_singleton.1 hu
    exact (Bool.and_eq_true_iff.1 h).2
  | object ps =>
    obtain ⟨p, hp, rfl⟩ := List.mem_map.1 hu
    exact (properProperties_iff.1 h p hp).2
  | member receiver property =>
    obtain rfl : u = receiver := List.mem_singleton.1 hu
    exact (Bool.and_eq_true_iff.1 h).1
  | array items => exact properExprs_iff.1 h u hu

end Lists

/-! ### How an expression begins -/

section Begins

variable {A : Alphabet} {e : Expr}

theorem Key.opens_text {k : Key} (h : k.proper A = true) : BeginsWith A.Opens k.text := by
  cases k with
  | ident name => exact Alphabet.opens_of_isName h
  | str name => exact opens_quoted A name
  | num name => exact opens_of_isDigits A (Bool.and_eq_true_iff.1 h).1

/-- No expression begins with a sign that closes, and none with a brace but that of an object. -/
theorem Expr.beginsWith_text (h : e.proper A = true) :
    BeginsWith (fun c => c ∉ closers ∧ (c = '\x7b' ↔ e.opensObject = true)) e.text := by
  have hopens {s : String} (hs : BeginsWith A.Opens s) :
      BeginsWith (fun c => c ∉ closers ∧ (c = '\x7b' ↔ false = true)) s :=
    hs.mono fun c hc => ⟨hc.not_mem (by decide), by
      have hne : c ∉ ['\x7b'] := hc.not_mem (by decide)
      simpa using hne⟩
  induction e using children_induction with
  | h e ih =>
    cases e with
    | ident name => exact hopens (Alphabet.opens_of_isName (Bool.and_eq_true_iff.1 h).1)
    | literal l => exact hopens (Literal.opens_text A h)
    | regex pattern =>
      exact ⟨'/', _, by simp only [text, String.toList_append, List.append_assoc]; rfl, by decide,
        by simp [opensObject]⟩
    | array items =>
      exact ⟨'[', _, by simp only [text, String.toList_append, List.append_assoc]; rfl, by decide,
        by simp [opensObject]⟩
    | arrow params body =>
      exact ⟨'(', _, by simp only [text, String.toList_append, List.append_assoc]; rfl, by decide,
        by simp [opensObject]⟩
    | object ps =>
      rw [text]
      split
      · exact ⟨'\x7b', ['\x7d'], rfl, by decide, by simp [opensObject]⟩
      · exact ⟨'\x7b', _, by simp only [String.toList_append, List.append_assoc]; rfl, by decide, by simp [opensObject]⟩
    | member receiver property =>
      have hreceiver := ih receiver (by simp [children]) (proper_children h (by simp [children]))
      exact (hreceiver.append _).append _
    | call callee args =>
      have hcallee := ih callee (by simp [children]) (proper_children h (by simp [children]))
      exact ((hcallee.append _).append _).append _

end Begins

/-! ### Parameters -/

section Params

variable {A : Alphabet} {p : Param} {ps : List Param}

/-- Where a parameter may end. -/
abbrev ParamStops (A : Alphabet) : List Char → Prop := Stops A ('?' :: ':' :: typeSigns)

theorem readParam_text (h : p.proper A = true) : Takes (readParam A) (ParamStops A) p.text (some p.tree) := by
  intro rest hrest
  obtain ⟨name, type, optional⟩ := p
  obtain ⟨hname, htype⟩ := Bool.and_eq_true_iff.1 h
  obtain ⟨hname, hreserved⟩ := Bool.and_eq_true_iff.1 hname
  rw [Bool.not_eq_true'] at hreserved
  have hread {behind : List Char} (hpart : ∀ c ∈ behind.head?, A.part c = false) (hflag : readSign '?' behind = none) :
      readParam A (name.toList ++ ((if optional then ['?'] else []) ++ behind)) =
        match readSign ':' behind with
        | some rest => (readType A rest).map fun (t, rest) => (⟨name, some t, optional⟩, rest)
        | none => some (⟨name, none, optional⟩, behind) := by
    have hpart' : ∀ c ∈ ((if optional then ['?'] else []) ++ behind).head?, A.part c = false := by
      cases optional with
      | true => exact IsSign.not_part (by decide) A behind
      | false => exact hpart
    rw [readParam, readWord_append hname hpart']
    simp only [Option.bind_some, hreserved, readFlag_append (by decide) hflag]
    rfl
  cases type with
  | none =>
    have htext : (Param.text ⟨name, none, optional⟩).toList ++ rest =
        name.toList ++ ((if optional then ['?'] else []) ++ rest) := by
      cases optional <;> simp [Param.text, annotation]
    rw [htext, hread hrest.part (hrest.readSign (by decide)), hrest.readSign (by decide)]
    rfl
  | some t =>
    have htext : (Param.text ⟨name, some t, optional⟩).toList ++ rest =
        name.toList ++ ((if optional then ['?'] else []) ++ ':' :: ' ' :: (t.text.toList ++ rest)) := by
      cases optional <;> simp [Param.text, annotation]
    have hsign : IsSign ':' := by decide
    have htype : readType A (' ' :: (t.text.toList ++ rest)) = some (t.tree nullTree, rest) :=
      readType_text htype rest (hrest.mono (by decide))
    rw [htext, hread (hsign.not_part A _) rfl, readSign_self (by decide)]
    simp only [htype]
    rfl

theorem readArrowHead_text (h : ∀ p ∈ ps, p.proper A = true) (cs : List Char) :
    readArrowHead A ('(' :: ((joinWith ", " (ps.map Param.text)).toList ++ ')' :: ' ' :: '=' :: '>' :: cs)) =
      some (ps.map Param.tree, cs) := by
  have hlisted : Listed (readParam A) (ParamStops A) ',' ')' :=
    .of_stops (fun _ => rfl) (by decide) (by decide) (by decide)
  have hbegins : ∀ p ∈ ps, BeginsWith (· ∉ closers) p.text := by
    intro p hp
    obtain ⟨hname, -⟩ := Bool.and_eq_true_iff.1 (Bool.and_eq_true_iff.1 (h p hp)).1
    exact ((Alphabet.opens_of_isName hname).of_opens.append _).append _
  have hstops : ParamStops A (')' :: ' ' :: '=' :: '>' :: cs) := stops_cons A (by decide) (by decide) _
  rw [readArrowHead, readSign_self (by decide), Option.bind_some, readList_joinWith hlisted rfl hstops
    (readSign_self (by decide) _) hbegins (fun p hp => readParam_text (h p hp)), mapM_some]
  rfl

end Params

/-! ### Lists, properties and suffixes -/

section Pieces

variable {A : Alphabet} {expr : Reader ExprTree} {k : Key} {e : Expr} {es : List Expr} {ps : List (Key × Expr)}
  {s : Suffix Expr} {rest : List Char}

/-- The expression is read to its end as what its text is read as. -/
abbrev ReadsExpr (A : Alphabet) (expr : Reader ExprTree) (e : Expr) : Prop :=
  Takes expr (ExprStops A) e.text (e.reading [])

theorem readList_exprs (hskips : ∀ cs, expr (' ' :: cs) = expr cs) {close : Char} (hclose : close = ')' ∨ close = ']')
    (hproper : ∀ e ∈ es, e.proper A = true) (hread : ∀ e ∈ es, ReadsExpr A expr e) (rest : List Char) :
    readList ',' close expr ((joinWith ", " (exprTexts es)).toList ++ close :: rest) =
      (readings es).map fun ts => (ts, rest) := by
  have hlisted : Listed expr (ExprStops A) ',' close := by
    rcases hclose with rfl | rfl <;> exact .of_stops hskips (by decide) (by decide) (by decide)
  have htail : ExprStops A (close :: rest) := by
    rcases hclose with rfl | rfl <;> exact stops_cons A (by decide) (by decide) rest
  have hself : readSign close (close :: rest) = some rest :=
    readSign_self (by rcases hclose with rfl | rfl <;> decide) rest
  rw [exprTexts_eq, readList_joinWith hlisted rfl htail hself
    (fun e he => (Expr.beginsWith_text (hproper e he)).mono fun _ hc => hc.1) hread, readings_eq]

theorem readPropertyKey_text (h : k.proper A = true) (rest : List Char) :
    readPropertyKey A (k.text.toList ++ ':' :: rest) = some (k, ':' :: rest) := by
  have hpart : ∀ c ∈ (':' :: rest).head?, A.part c = false := IsSign.not_part (by decide) A rest
  cases k with
  | ident name => simp only [Key.text, readPropertyKey, readWord_append h hpart]
  | str name =>
    have hsign : IsSign '"' := by decide
    have hword : readWord A ((quoted name).toList ++ ':' :: rest) = none := by
      rw [toList_quoted, readWord_sign A hsign]
    have hnumeral : readNumeral A ((quoted name).toList ++ ':' :: rest) = none := by
      rw [toList_quoted, readNumeral_sign A hsign]
    simp only [Key.text, readPropertyKey, hword, hnumeral, readString_append]
    rfl
  | num name =>
    obtain ⟨hdigits, hdecimal⟩ := Bool.and_eq_true_iff.1 h
    have hnumeral : readNumeral A (name.toList ++ ':' :: rest) = some (name.toList, ':' :: rest) :=
      readNumeral_append (.whole hdigits hdecimal) hpart (by simp)
    have hword : readWord A (name.toList ++ ':' :: rest) = none := by
      obtain ⟨hne, hall⟩ := isDigits_iff.1 hdigits
      obtain ⟨d, more, hname⟩ := List.exists_cons_of_ne_nil hne
      have hd : d.isDigit = true := hall d (hname ▸ List.mem_cons_self)
      rw [hname, List.cons_append]
      exact readWord_digit A hd _
    simp only [Key.text, readPropertyKey, hword, hnumeral, String.ofList_toList]

theorem readPair_text (h : k.proper A = true) (hskips : ∀ cs, expr (' ' :: cs) = expr cs) (hread : ReadsExpr A expr e) :
    Takes (readPair A expr) (ExprStops A) (k.text ++ ": " ++ e.text) ((e.reading []).map fun t => (k, t)) := by
  intro rest hrest
  have htext : (k.text ++ ": " ++ e.text).toList ++ rest = k.text.toList ++ ':' :: ' ' :: (e.text.toList ++ rest) := by
    simp
  rw [htext, readPair, readPropertyKey_text h, Option.bind_some]
  simp only [readSign_self (show ':' ≠ ' ' by decide), Option.bind_some, hskips, hread rest hrest]
  cases e.reading [] <;> rfl

theorem readList_pairs (hskips : ∀ cs, expr (' ' :: cs) = expr cs) (hproper : properProperties A ps = true)
    (hread : ∀ p ∈ ps, ReadsExpr A expr p.2) {tail : List Char} (htail : ExprStops A tail)
    (hclose : readSign '\x7d' tail = some rest) :
    readList ',' '\x7d' (readPair A expr) ((joinWith ", " (propertyTexts ps)).toList ++ tail) =
      (propertyReadings ps).map fun ts => (ts, rest) := by
  have hlisted : Listed (readPair A expr) (ExprStops A) ',' '\x7d' :=
    .of_stops (fun _ => rfl) (by decide) (by decide) (by decide)
  have hproper' := properProperties_iff.1 hproper
  rw [propertyTexts_eq, readList_joinWith hlisted rfl htail hclose
    (fun p hp => ((Key.opens_text (hproper' p hp).1).of_opens.append _).append _)
    (fun p hp => readPair_text (hproper' p hp).1 hskips (hread p hp)), propertyReadings_eq]

theorem readSuffix_text (h : s.proper A = true) (hskips : ∀ cs, expr (' ' :: cs) = expr cs)
    (hread : ∀ args, s = .call args → ∀ e ∈ args, ReadsExpr A expr e) :
    Takes (readSuffix A expr) (fun rest => ∀ c ∈ rest.head?, A.part c = false) s.text s.reading := by
  intro rest hrest
  cases s with
  | member property =>
    have htext : (Suffix.text (.member property)).toList ++ rest = '.' :: (property.toList ++ rest) := by
      simp [Suffix.text]
    have hword : readWord A (property.toList ++ rest) = some (property, rest) := readWord_append h hrest
    have hsuffix : readSuffix A expr ('.' :: (property.toList ++ rest)) =
        (readWord A (property.toList ++ rest)).map fun (property, rest) => (.member property, rest) := rfl
    rw [htext, hsuffix, hword]
    rfl
  | call args =>
    have htext : (Suffix.text (.call args)).toList ++ rest =
        '(' :: ((joinWith ", " (exprTexts args)).toList ++ ')' :: rest) := by
      simp [Suffix.text]
    have hsuffix (cs : List Char) : readSuffix A expr ('(' :: cs) =
        (readList ',' ')' expr cs).map fun (args, rest) => (.call args, rest) := rfl
    rw [htext, hsuffix, readList_exprs hskips (.inl rfl) (properExprs_iff.1 h) (hread args rfl), Suffix.reading]
    cases readings args <;> rfl

end Pieces

/-! ### What something may go on with -/

/-- Something that no suffix ends. -/
def Expr.isAtom : Expr → Bool
  | .ident _ | .literal _ | .object _ | .array _ | .regex _ => true
  | .call _ _ | .arrow _ _ | .member _ _ => false

section Primary

variable {A : Alphabet} {expr : Reader ExprTree} {e : Expr} {l : Literal} {c : Char} {cs rest : List Char}

theorem readPrimary_sign (h : IsSign c) (cs : List Char) :
    readPrimary A expr (c :: cs) = readDelimited A expr (c :: cs) := by
  simp only [readPrimary, readWord_sign A h, readNumeral_sign A h]

theorem readPrimary_paren (cs : List Char) : readPrimary A expr ('(' :: cs) =
    (expr cs).bind fun (e, rest) => (readSign ')' rest).map fun rest => (e, rest) :=
  readPrimary_sign (by decide) cs

theorem readPrimary_bracket (cs : List Char) : readPrimary A expr ('[' :: cs) =
    (readList ',' ']' expr cs).map fun (items, rest) => (.array items, rest) :=
  readPrimary_sign (by decide) cs

theorem readPrimary_brace (cs : List Char) : readPrimary A expr ('\x7b' :: cs) =
    (readList ',' '\x7d' (readPair A expr) cs).map fun (pairs, rest) => (.object pairs, rest) :=
  readPrimary_sign (by decide) cs

theorem readPrimary_slash (cs : List Char) : readPrimary A expr ('/' :: cs) =
    (readRegex ('/' :: cs)).bind fun (body, rest) =>
      if rest.head?.any A.part then none else some (.regex (String.ofList body), rest) :=
  readPrimary_sign (by decide) cs

theorem readDelimited_digit (h : c.isDigit = true) (cs : List Char) : readDelimited A expr (c :: cs) = none := by
  have hquote : readString (c :: cs) = none := by
    rw [readString, readSign_ne (ne_of_isDigit h (by decide)) (ne_of_isDigit h (by decide)), Option.bind_none]
  unfold readDelimited
  rw [skip_digit h, hquote]
  split
  iterate 4
    rename_i heq
    cases heq
    exact absurd h (by decide)
  rfl

theorem wordExpr?_ident {w : String} (h : languageWords.contains w = false) : wordExpr? w = some (.ident w) := by
  simp only [wordExpr?, wordLiteral?_eq_none h, h]
  rfl

theorem readPrimary_quoted (s : String) (rest : List Char) :
    readPrimary A expr ((quoted s).toList ++ rest) = some (.literal (.string s), rest) := by
  have hstring : readDelimited A expr ((quoted s).toList ++ rest) =
      (readString ((quoted s).toList ++ rest)).map fun (s, rest) => (.literal (.string s), rest) := by
    rw [toList_quoted]
    rfl
  rw [toList_quoted, readPrimary_sign (by decide), ← toList_quoted, hstring, readString_append]
  rfl

/-- A number is read with its point, and not with a sign. -/
theorem readPrimary_number {negative : Bool} (h : l.numeral? = some (negative, cs))
    (hpart : ∀ c ∈ rest.head?, A.part c = false) (hpoint : rest.head? = some '.' → '.' ∈ cs) :
    readPrimary A expr (l.text.toList ++ rest) = if negative then none else some (.literal l.tree, rest) := by
  obtain ⟨hnumeral, htext, htree⟩ := Literal.numeral?_text h
  rw [htree, htext]
  cases negative with
  | true => exact readPrimary_sign (by decide) _
  | false =>
    have htext' : l.text = String.ofList cs := by
      rw [← String.toList_inj, htext, String.toList_ofList]
      rfl
    have hread : readNumeral A (cs ++ rest) = some (cs, rest) := readNumeral_append hnumeral hpart hpoint
    have hword : readWord A (cs ++ rest) = none := by
      obtain ⟨d, more, rfl, hd⟩ := numeral_cons hnumeral
      exact readWord_digit A hd _
    have hunsigned : (if false = true then ['-'] else []) ++ cs = cs := rfl
    rw [hunsigned, readPrimary, hword, htext']
    simp only [hread]
    rfl

/-- A whole number with a point and a name behind it is not read. -/
theorem readPrimary_point (h : l.isWhole = true) (hc : A.start c = true) (cs : List Char) :
    readPrimary A expr (l.text.toList ++ '.' :: c :: cs) = none := by
  obtain ⟨⟨negative, digits⟩, hnumeral, hpoint⟩ := (Option.any_eq_true _ _).1 h
  obtain ⟨hdigits, htext, -⟩ := Literal.numeral?_text hnumeral
  rw [htext]
  cases negative with
  | true => exact readPrimary_sign (by decide) _
  | false =>
    cases hdigits with
    | fraction hdigits hdecimal hmore => simp at hpoint
    | whole hdigits hdecimal =>
      have hread : readNumeral A (digits ++ '.' :: c :: cs) = none := readNumeral_name hdigits hc
      obtain ⟨hne, hall⟩ := isDigits_iff.1 hdigits
      obtain ⟨d, more, rfl⟩ := List.exists_cons_of_ne_nil hne
      have hd : d.isDigit = true := hall d List.mem_cons_self
      have hword : readWord A (d :: more ++ '.' :: c :: cs) = none := readWord_digit A hd _
      have hsigned : readDelimited A expr (d :: more ++ '.' :: c :: cs) = none := readDelimited_digit hd _
      have hunsigned : (if false = true then ['-'] else []) ++ d :: more = d :: more := rfl
      rw [hunsigned, readPrimary, hword]
      simp only [hread, hsigned]

theorem readPrimary_literal (h : l.isFinite = true) (hpart : ∀ c ∈ rest.head?, A.part c = false)
    (hpoint : l.isWhole = true → rest.head? ≠ some '.') :
    readPrimary A expr (l.text.toList ++ rest) = if l.isSigned then none else some (.literal l.tree, rest) := by
  have hword {w : String} {t : LiteralTree} (hname : Identifier.isName w = true) (hw : wordLiteral? w = some t) :
      readPrimary A expr (w.toList ++ rest) = some (.literal t, rest) := by
    simp [readPrimary, readWord_append (A.isName_of_ascii hname) hpart, wordExpr?, hw]
  have hnumber {negative : Bool} {cs : List Char} (hnumeral : l.numeral? = some (negative, cs)) :
      readPrimary A expr (l.text.toList ++ rest) = if l.isSigned then none else some (.literal l.tree, rest) := by
    have hsigned : l.isSigned = negative := by simp [Literal.isSigned, hnumeral]
    rw [hsigned]
    refine readPrimary_number hnumeral hpart fun hfirst => ?_
    by_contra hnone
    exact hpoint (by simp [Literal.isWhole, hnumeral, hnone]) hfirst
  cases l with
  | string s => exact readPrimary_quoted s rest
  | number _ | int _ => exact hnumber rfl
  | bool b => cases b <;> exact hword (by decide) rfl
  | null => exact hword (by decide) rfl
  | notANumber | infinity _ => cases h

/-- **An atom is read to its end**, as soon as what it is made of is. -/
theorem readPrimary_text (h : e.proper A = true) (hatom : e.isAtom = true) (hskips : ∀ cs, expr (' ' :: cs) = expr cs)
    (hread : ∀ u ∈ e.children, ReadsExpr A expr u) (hpart : ∀ c ∈ rest.head?, A.part c = false)
    (hpoint : e.isWhole = true → rest.head? ≠ some '.') :
    readPrimary A expr (e.text.toList ++ rest) = (e.reading []).map fun t => (t, rest) := by
  cases e with
  | ident name =>
    obtain ⟨hname, hreserved⟩ := Bool.and_eq_true_iff.1 h
    rw [Bool.not_eq_true'] at hreserved
    rw [Expr.text, readPrimary, readWord_append hname hpart]
    simp only [wordExpr?_ident hreserved]
    rfl
  | literal l =>
    rw [Expr.text, readPrimary_literal h hpart hpoint, Expr.reading]
    cases l.isSigned <;> simp [ExprTree.attach]
  | regex pattern =>
    have hpattern : Enclosable pattern := of_decide_eq_true h
    have htext : (Expr.regex pattern).text.toList ++ rest = '/' :: ((escapeRegex pattern).toList ++ '/' :: rest) := by
      simp [Expr.text]
    have hflags : rest.head?.any A.part = false := by
      cases hfirst : rest.head? with
      | none => rfl
      | some c => exact hpart c hfirst
    rw [htext, readPrimary_slash, hpattern.reads]
    simp [hflags, Expr.reading, ExprTree.attach]
  | array items =>
    have htext : (Expr.array items).text.toList ++ rest =
        '[' :: ((joinWith ", " (exprTexts items)).toList ++ ']' :: rest) := by
      simp [Expr.text]
    rw [htext, readPrimary_bracket, readList_exprs hskips (.inr rfl) (properExprs_iff.1 h) hread, Expr.reading]
    cases readings items <;> rfl
  | object ps =>
    have hpairs : ∀ p ∈ ps, ReadsExpr A expr p.2 := fun p hp => hread p.2 (List.mem_map_of_mem hp)
    rw [Expr.reading]
    cases ps with
    | nil =>
      have hstops : ExprStops A ('\x7d' :: rest) := stops_cons A (by decide) (by decide) rest
      have htext : (Expr.object []).text.toList ++ rest =
          '\x7b' :: ((joinWith ", " (propertyTexts [])).toList ++ '\x7d' :: rest) := rfl
      rw [htext, readPrimary_brace, readList_pairs hskips h hpairs hstops (readSign_self (by decide) rest)]
      rfl
    | cons p ps =>
      have hstops : ExprStops A (' ' :: '\x7d' :: rest) := stops_space A (by decide) (by decide) rest
      have hclose : readSign '\x7d' (' ' :: '\x7d' :: rest) = some rest := rfl
      have htext : (Expr.object (p :: ps)).text.toList ++ rest =
          '\x7b' :: ' ' :: ((joinWith ", " (propertyTexts (p :: ps))).toList ++ ' ' :: '\x7d' :: rest) := by
        simp [Expr.text]
      rw [htext, readPrimary_brace, readList_space, readList_pairs hskips h hpairs hstops hclose]
      cases propertyReadings (p :: ps) <;> rfl
  | call _ _ | arrow _ _ | member _ _ => cases hatom

/-- Suffixes are put behind an atom, but for a point behind a whole number. -/
theorem Expr.reading_atom (hatom : e.isAtom = true) {ss : List (Suffix ExprTree)}
    (hpoint : (e.isWhole && ss.head?.any Suffix.isMember) = false) :
    e.reading ss = (e.reading []).map fun t => t.attach ss := by
  cases e with
  | ident _ | regex _ => rfl
  | literal l =>
    have hwhole : (l.isWhole && ss.head?.any Suffix.isMember) = false := hpoint
    rw [reading, reading, hwhole]
    cases l.isSigned <;> simp [ExprTree.attach]
  | object ps =>
    rw [reading, reading]
    cases propertyReadings ps <;> rfl
  | array items =>
    rw [reading, reading]
    cases readings items <;> rfl
  | call _ _ | arrow _ _ | member _ _ => cases hatom

end Primary

end Typeforge.Code
