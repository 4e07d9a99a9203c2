import Typeforge.Code.Printer
import Typeforge.Proofs.Code.Identifier
import Typeforge.Proofs.Decimal.Small
import Typeforge.Proofs.Keyed
import Typeforge.Proofs.Validator.Outline

/-!
# Reading object literals

What an object literal defines when it is evaluated in JavaScript, as far as its keys go. A key is a name, a decimal
integer, which is read as a number and stands for the text of that number, or a string. The key `__proto__` sets the
prototype and defines nothing.

* `readQuoted_append`: a quoted text reads back as the text;
* `readProperty_iff`: which names read back as themselves;
* `evaluateFrom_iff`: what a list of properties defines;
* `evaluate_ofNames`: the literal with distinct names for keys;
* `evaluate_ofFields`, `evaluate_ofMembers`: the literals that stand in a file.
-/

namespace Typeforge.Code

open Decimal

/-! ### The rules -/

/-- The text of a whole number: that of the double nearest to it, written out if it has no more than 21 digits. -/
def numberText (n : Nat) : String :=
  match Binary64.ofRatio false n 1 with
  | none => "Infinity"
  | some x =>
    if x.isZero then "0"
    else
      let (digits, point) := significant (shortest .even x.mantissa x.exponent)
      if point ≤ 21 then String.ofList (writePositional "" digits point)
      else
        let fraction := digits.drop 1
        String.ofList (digits.take 1 ++ (if fraction.isEmpty then [] else '.' :: fraction))
          ++ "e+" ++ toString (point - 1)

/-- The character that a backslash and `c` stand for. The longer sequences, and the ends of lines, are left out. -/
def escaped? (c : Char) : Option Char :=
  if c = 'n' then some '\n'
  else if c = 'r' then some '\r'
  else if c = 't' then some '\t'
  else if c = 'b' then some '\x08'
  else if c = 'f' then some '\x0c'
  else if c = 'v' then some '\x0b'
  else if c = 'x' || c = 'u' || c.isDigit || c = '\n' || c = '\r' || c = '\u2028' || c = '\u2029' then none
  else some c

/-- What a string says from behind its opening quote on, and what comes after it; `escaped` says whether a backslash
stands before. A line does not end in a string. -/
def readQuoted (escaped : Bool) : List Char → Option (List Char × List Char)
  | [] => none
  | c :: cs =>
    if escaped then (escaped? c).bind fun d => (readQuoted false cs).map fun (s, rest) => (d :: s, rest)
    else if c = '"' then some ([], cs)
    else if c = '\\' then readQuoted true cs
    else if c = '\n' || c = '\r' then none
    else (readQuoted false cs).map fun (s, rest) => (c :: s, rest)

/-- Digits that may stand for a number: no zero comes before others. -/
def isDecimal (digits : List Char) : Bool := digits.head? != some '0' || digits.length == 1

/-- The text of the number at the front, and what comes after it. No name and no fraction may follow directly. -/
def readNumber (cs : List Char) : Option (String × List Char) :=
  let digits := cs.takeWhile Char.isDigit
  let rest := cs.dropWhile Char.isDigit
  if isDecimal digits && !rest.head?.any fun c => Identifier.isPart c || c == '.' then
    some (numberText (Nat.ofDigitChars 10 digits 0), rest)
  else none

/-- The key at the front, and what comes after it. Of the names only those of ASCII characters are read. -/
def readKey : List Char → Option (String × List Char)
  | [] => none
  | c :: cs =>
    if c = '"' then (readQuoted false cs).map fun (s, rest) => (String.ofList s, rest)
    else if c.isDigit then readNumber (c :: cs)
    else if Identifier.isStart c then
      some (String.ofList ((c :: cs).takeWhile Identifier.isPart), (c :: cs).dropWhile Identifier.isPart)
    else none

/-- The key of a property and the text of its value. -/
def readProperty (text : String) : Option (String × String) :=
  match readKey text.toList with
  | some (key, ':' :: ' ' :: value) => some (key, String.ofList value)
  | _ => none

/-- The object that a literal makes. The order in which it lists its own properties is left out. -/
structure Made where
  /-- Its own properties, with the texts of their values. -/
  own : Keyed String := []
  /-- The text of what is given as its prototype. -/
  prototype : Option String := none
deriving DecidableEq

/-- Defines a property; one that is there already gets the new value. The prototype may be given once. -/
def Made.define (made : Made) (key value : String) : Option Made :=
  if key = "__proto__" then
    if made.prototype.isSome then none else some { made with prototype := some value }
  else some { made with own := made.own.put key value }

/-- What the properties of a literal, given by their texts, define one after the other. -/
def evaluateFrom (made : Made) (properties : List String) : Option Made :=
  properties.foldlM (fun made text => (readProperty text).bind fun p => made.define p.1 p.2) made

def evaluate (properties : List String) : Option Made := evaluateFrom {} properties

/-! ### Reading what is written -/

section Reading

variable {name value : String} {cs rest : List Char}

theorem readQuoted_escapeChar (c : Char) :
    readQuoted false (escapeChar c ++ cs) = (readQuoted false cs).map fun (s, rest) => (c :: s, rest) := by
  unfold escapeChar
  split
  iterate 5 rfl
  rename_i hbackslash hquote hfeed hreturn _
  simp only [List.singleton_append, readQuoted, Bool.false_eq_true, if_false]
  rw [if_neg hquote, if_neg hbackslash, if_neg (by simpa using ⟨hfeed, hreturn⟩)]

/-- **A quoted text reads back as the text.** -/
theorem readQuoted_append (s : List Char) :
    readQuoted false (s.flatMap escapeChar ++ '"' :: rest) = some (s, rest) := by
  induction s with
  | nil => rfl
  | cons c s ih => rw [List.flatMap_cons, List.append_assoc, readQuoted_escapeChar, ih, Option.map_some]

theorem readKey_quoted : readKey ((quoted name).toList ++ rest) = some (name, rest) := by
  have htext : (quoted name).toList ++ rest = '"' :: (name.toList.flatMap escapeChar ++ '"' :: rest) := by
    simp [quoted, escapeString]
  rw [htext, readKey, if_pos rfl, readQuoted_append]
  simp

theorem readKey_name (h : Identifier.isName name = true) (hrest : ∀ c ∈ rest.head?, Identifier.isPart c = false) :
    readKey (name.toList ++ rest) = some (name, rest) := by
  have hparts : ∀ c ∈ name.toList, Identifier.isPart c = true := fun c hc => Identifier.isPart_of_mem h hc
  obtain ⟨c, cs, hname, hc, -⟩ := Identifier.isName_iff.1 h
  have htake : (name.toList ++ rest).takeWhile Identifier.isPart = name.toList := by
    rw [List.takeWhile_append_of_pos hparts]
    cases rest <;> simp_all
  have hdrop : (name.toList ++ rest).dropWhile Identifier.isPart = rest := by
    rw [List.dropWhile_append_of_pos hparts]
    cases rest <;> simp_all
  have hquote : c ≠ '"' := by
    rintro rfl
    exact absurd hc (by decide)
  have hdigit : c.isDigit = false := Identifier.isDigit_of_isStart hc
  have hread : readKey (name.toList ++ rest) = some (String.ofList ((name.toList ++ rest).takeWhile Identifier.isPart),
      (name.toList ++ rest).dropWhile Identifier.isPart) := by
    rw [hname, List.cons_append, readKey, if_neg hquote, if_neg (by simp [hdigit]), if_pos hc]
  rw [hread, htake, hdrop, String.ofList_toList]

theorem readKey_digits (h : isDigits name.toList = true) : readKey (name.toList ++ ':' :: rest) =
    if isDecimal name.toList then some (numberText (Nat.ofDigitChars 10 name.toList 0), ':' :: rest) else none := by
  simp only [isDigits, Bool.and_eq_true, List.all_eq_true] at h
  obtain ⟨hne, hdigits⟩ := h
  have htake : (name.toList ++ ':' :: rest).takeWhile Char.isDigit = name.toList := by
    rw [List.takeWhile_append_of_pos hdigits]
    simp
  have hdrop : (name.toList ++ ':' :: rest).dropWhile Char.isDigit = ':' :: rest := by
    rw [List.dropWhile_append_of_pos hdigits]
    simp
  have hread : readKey (name.toList ++ ':' :: rest) = readNumber (name.toList ++ ':' :: rest) := by
    cases hname : name.toList with
    | nil => simp [hname] at hne
    | cons c cs =>
      have hc : c.isDigit = true := hdigits c (hname ▸ List.mem_cons_self)
      have hquote : c ≠ '"' := by
        rintro rfl
        exact absurd hc (by decide)
      rw [List.cons_append, readKey, if_neg hquote, if_pos hc]
  have hcolon : ((':' :: rest).head?.any fun c => Identifier.isPart c || c == '.') = false := rfl
  rw [hread, readNumber]
  simp only [htake, hdrop, hcolon, Bool.not_false, Bool.and_true]

end Reading

/-! ### Names as keys -/

section Names

variable {name value : String}

theorem isName_of_chars (hne : name ≠ "") (hhead : name.toList.head?.any Char.isDigit = false)
    (hchars : ∀ c ∈ name.toList, (c.isAlphanum || c == '_') = true) : Identifier.isName name = true := by
  cases hname : name.toList with
  | nil => exact absurd (String.toList_eq_nil_iff.1 hname) hne
  | cons c cs =>
    have part : ∀ d ∈ c :: cs, Identifier.isPart d = true := by
      intro d hd
      simp [Identifier.isPart, hchars d (hname ▸ hd)]
    have hc : c.isDigit = false := by simpa [hname] using hhead
    exact Identifier.isName_iff.2 ⟨c, cs, hname, Identifier.isStart_of_isPart (part c List.mem_cons_self) hc,
      fun d hd => part d (List.mem_cons_of_mem _ hd)⟩

theorem not_isDigits_of_mem {cs : List Char} {c : Char} (hc : c ∈ cs) (hdigit : c.isDigit = false) :
    isDigits cs = false := by
  simp only [isDigits, Bool.and_eq_false_iff, List.all_eq_false]
  exact .inr ⟨c, hc, by simp [hdigit]⟩

/-- How a name is written: digits alone as a number, a word as a name, and everything else as a string, except that
the empty text is taken for a word. -/
theorem ofName_cases (name : String) :
    (Key.ofName name = .num name ∧ isDigits name.toList = true) ∨
      (Key.ofName name = .ident name ∧ isDigits name.toList = false ∧ (name = "" ∨ Identifier.isName name = true)) ∨
      (Key.ofName name = .str name ∧ isDigits name.toList = false ∧ name ≠ "") := by
  unfold Key.ofName
  simp only
  split
  · rename_i hquoted
    obtain ⟨c, hc, hdigit⟩ : ∃ c ∈ name.toList, c.isDigit = false := by
      rw [Bool.or_eq_true] at hquoted
      rcases hquoted with hmixed | hother
      · simp only [Bool.and_eq_true, Bool.not_eq_true', List.all_eq_false] at hmixed
        obtain ⟨c, hc, hdigit⟩ := hmixed.2
        exact ⟨c, hc, by simpa using hdigit⟩
      · obtain ⟨c, hc, hother⟩ := List.any_eq_true.1 hother
        refine ⟨c, hc, ?_⟩
        simp only [Char.isAlphanum, Bool.not_eq_true', Bool.or_eq_false_iff] at hother
        exact hother.1.2
    refine .inr (.inr ⟨rfl, not_isDigits_of_mem hc hdigit, ?_⟩)
    rintro rfl
    simp at hc
  · rename_i hword
    simp only [Bool.or_eq_true, not_or, Bool.not_eq_true, List.any_eq_false] at hword
    obtain ⟨hmixed, hword⟩ := hword
    split
    · rename_i hdigits
      exact .inl ⟨rfl, hdigits⟩
    · rename_i hdigits
      refine .inr (.inl ⟨rfl, by simpa using hdigits, or_iff_not_imp_left.2 fun hne => ?_⟩)
      refine isName_of_chars hne ?_ fun c hc => by simpa only [Bool.not_eq_false'] using hword c hc
      -- a digit in front would have only digits behind it
      rw [Bool.eq_false_iff]
      intro hhead
      rw [hhead, Bool.true_and, Bool.not_eq_false'] at hmixed
      exact hdigits (by simp [isDigits, hmixed, hne])

/-- What is read of a property, by what is read of its key. -/
theorem readProperty_append (key : String) : readProperty (key ++ ": " ++ value) =
    match readKey (key.toList ++ ':' :: ' ' :: value.toList) with
    | some (k, ':' :: ' ' :: v) => some (k, String.ofList v)
    | _ => none := by
  have htext : (key ++ ": " ++ value).toList = key.toList ++ ':' :: ' ' :: value.toList := by simp
  rw [readProperty, htext]

/-- **Which names read back as themselves.** -/
theorem readProperty_iff : readProperty ((Key.ofName name).text ++ ": " ++ value) = some (name, value) ↔
    name ≠ "" ∧ (isDigits name.toList = true →
      isDecimal name.toList = true ∧ numberText (Nat.ofDigitChars 10 name.toList 0) = name) := by
  rw [readProperty_append]
  rcases ofName_cases name with ⟨hkey, hdigits⟩ | ⟨hkey, hdigits, hempty | hname⟩ | ⟨hkey, hdigits, hne⟩
  · have hne : name ≠ "" := by
      rintro rfl
      cases hdigits
    rw [hkey, Key.text, readKey_digits hdigits]
    split
    · rename_i hread
      split at hread
      · rename_i hdecimal
        cases hread
        simp [hne, hdigits, hdecimal]
      · cases hread
    · rename_i hread
      have hdecimal : isDecimal name.toList ≠ true := fun hdecimal => hread _ _ (if_pos hdecimal)
      simp [hdigits, hdecimal]
  · subst hempty
    rw [hkey]
    simp [Key.text, readKey, Identifier.isStart]
  · have hne : name ≠ "" := by
      rintro rfl
      cases hname
    rw [hkey, Key.text, readKey_name hname (by simp; decide)]
    simp [hne, hdigits]
  · rw [hkey, Key.text, readKey_quoted]
    simp [hne, hdigits]

/-- The name is a key that stands for itself. -/
structure Plain (name : String) : Prop where
  nonempty : name ≠ ""
  /-- The key does not set the prototype. -/
  free : name ≠ "__proto__"
  /-- Digits are those of a number, and of the one that JavaScript writes so. -/
  number : isDigits name.toList = true →
    isDecimal name.toList = true ∧ numberText (Nat.ofDigitChars 10 name.toList 0) = name

theorem plain_iff : Plain name ↔ readProperty ((Key.ofName name).text ++ ": " ++ value) = some (name, value) ∧
    name ≠ "__proto__" := by
  rw [readProperty_iff]
  exact ⟨fun h => ⟨⟨h.nonempty, h.number⟩, h.free⟩, fun h => ⟨h.1.1, h.2, h.1.2⟩⟩

theorem plain_of_word (h : isDigits name.toList = false) (hne : name ≠ "") (hfree : name ≠ "__proto__") : Plain name :=
  ⟨hne, hfree, by simp [h]⟩

end Names

/-! ### Small numbers as names -/

section Numbers

variable {n : Nat}

theorem toList_toString (n : Nat) : (toString n).toList = Nat.toDigits 10 n := by
  simp [toString, Nat.toList_repr]

theorem numberText_small (h : n < 2 ^ 53) : numberText n = toString n := by
  rw [← String.toList_inj, toList_toString]
  rcases Nat.eq_zero_or_pos n with rfl | h0
  · rfl
  · obtain ⟨hpoint, hwritten⟩ := written_small h0 h .even
    have hscale := scale_small h0 h
    have hlength : (Nat.toDigits 10 n).length ≤ 16 :=
      (Nat.length_toDigits_le_iff (by decide) (by decide)).2 (Nat.lt_trans h (by decide))
    have hzero : n * 2 ^ (52 - n.log2) ≠ 0 := by omega
    unfold numberText
    rw [ofRatio_small h0 h]
    simp only [Binary64.isZero, beq_iff_eq, hzero, if_false]
    rw [if_pos (by rw [hpoint]; omega), String.toList_ofList, hwritten]

theorem head?_toDigits (h : 0 < n) : (Nat.toDigits 10 n).head? ≠ some '0' := by
  induction n using Nat.strongRecOn with
  | ind n ih =>
    rw [Nat.toDigits_eq_if (by decide)]
    split
    · rename_i hlt
      have digits : ∀ d < 10, 0 < d → Nat.digitChar d ≠ '0' := by decide
      simpa using digits n hlt h
    · rw [List.head?_append_of_ne_nil _ Nat.toDigits_ne_nil]
      exact ih (n / 10) (by omega) (by omega)

theorem isDecimal_toDigits (n : Nat) : isDecimal (Nat.toDigits 10 n) = true := by
  rcases Nat.eq_zero_or_pos n with rfl | h
  · rfl
  · simp [isDecimal, head?_toDigits h]

/-- **A number below `2 ^ 53` is a plain name.** -/
theorem plain_toString (h : n < 2 ^ 53) : Plain (toString n) := by
  have hdigits : isDigits (toString n).toList = true := by
    rw [toList_toString]
    exact isDigits_toDigits n
  refine ⟨?_, ?_, fun _ => ?_⟩
  · intro hempty
    rw [hempty] at hdigits
    cases hdigits
  · intro hproto
    rw [hproto] at hdigits
    exact absurd hdigits (by decide)
  · rw [toList_toString, Nat.ofDigitChars_toDigits (by decide) (by decide)]
    exact ⟨isDecimal_toDigits n, numberText_small h⟩

end Numbers

/-! ### What a literal defines -/

section Literal

variable {made : Made} {own : Keyed String} {properties : List String}

/-- Properties define just what is read of them, and no prototype, if none of them has the key for it. -/
theorem evaluateFrom_iff : evaluateFrom made properties = some { own } ↔ made.prototype = none ∧
    ∃ read : List (String × String),
      List.Forall₂ (fun text p => readProperty text = some p ∧ p.1 ≠ "__proto__") properties read ∧
      own = read.foldl (fun m p => m.put p.1 p.2) made.own := by
  induction properties generalizing made with
  | nil =>
    obtain ⟨own', prototype⟩ := made
    simp only [evaluateFrom, List.foldlM_nil, Option.pure_def, Option.some.injEq, Made.mk.injEq,
      List.forall₂_nil_left_iff, exists_eq_left, List.foldl_nil]
    exact ⟨fun h => ⟨h.2, h.1.symm⟩, fun h => ⟨h.2.symm, h.1⟩⟩
  | cons text properties ih =>
    have step : evaluateFrom made (text :: properties) =
        ((readProperty text).bind fun p => made.define p.1 p.2).bind fun next => evaluateFrom next properties := by
      simp only [evaluateFrom, List.foldlM_cons]
      rfl
    rw [step]
    cases hread : readProperty text with
    | none => simp [hread, List.forall₂_cons_left_iff]
    | some p =>
      obtain ⟨key, value⟩ := p
      simp only [Option.bind_some, Made.define]
      by_cases hproto : key = "__proto__"
      · rw [if_pos hproto]
        split
        · simp [hread, List.forall₂_cons_left_iff, hproto]
        · simp [hread, List.forall₂_cons_left_iff, hproto, ih]
      · rw [if_neg hproto, Option.bind_some, ih]
        simp [hread, List.forall₂_cons_left_iff, hproto, and_assoc]

theorem propertyTexts_eq (ps : List (Key × Expr)) :
    propertyTexts ps = ps.map fun p => p.1.text ++ ": " ++ p.2.text := by
  induction ps with
  | nil => rfl
  | cons p ps ih => rw [propertyTexts, ih, List.map_cons]

/-- **The literal with distinct names for keys** defines each of them, with its value and nothing else, just if all of
them are plain. -/
theorem evaluate_ofNames {entries : List (String × Expr)} (hnames : (entries.map Prod.fst).Nodup) :
    evaluate (propertyTexts (entries.map fun e => (.ofName e.1, e.2))) =
      some { own := entries.map fun e => (e.1, e.2.text) } ↔ ∀ e ∈ entries, Plain e.1 := by
  have texts : propertyTexts (entries.map fun e => (.ofName e.1, e.2)) =
      entries.map fun e => (Key.ofName e.1).text ++ ": " ++ e.2.text := by
    rw [propertyTexts_eq, List.map_map]
    rfl
  have reads : List.Forall₂ (fun text p => readProperty text = some p ∧ p.1 ≠ "__proto__")
      (entries.map fun e => (Key.ofName e.1).text ++ ": " ++ e.2.text) (entries.map fun e => (e.1, e.2.text)) ↔
      ∀ e ∈ entries, Plain e.1 := by
    rw [List.forall₂_map_left_iff, List.forall₂_map_right_iff, List.forall₂_same]
    exact forall₂_congr fun e _ => plain_iff.symm
  rw [evaluate, evaluateFrom_iff, texts, ← reads]
  constructor
  · rintro ⟨-, read, hread, hown⟩
    -- as many properties as entries, so none was put over another one
    have hlength := hread.length_eq
    have hall : read.foldl (fun m p => Keyed.put m p.1 p.2) [] = [] ++ read := Keyed.foldl_put_of_length (by
      rw [← hown]
      simpa using hlength)
    rw [hall, List.nil_append] at hown
    rwa [← hown] at hread
  · intro hread
    refine ⟨rfl, _, hread, ?_⟩
    rw [Keyed.foldl_put_of_nodup (m := []) (by simpa [Keyed.keys, Function.comp_def] using hnames), List.nil_append]

end Literal

/-! ### The literals that are printed -/

section Printed

theorem propertiesOfFields_eq (fields : List (String × Json.Value)) :
    propertiesOfFields fields = (fields.map fun f => (f.1, Expr.ofValue f.2)).map fun e => (.ofName e.1, e.2) := by
  induction fields with
  | nil => rfl
  | cons f fields ih => rw [propertiesOfFields, ih, List.map_cons, List.map_cons]

open Validator Validator.Sketch in
theorem exists_entries (metadata : Bool) (required : String → Bool) (ps : List (String × Schema.Node))
    (uses : List Use) : ∃ entries : List (String × Expr), entries.map Prod.fst = Keyed.keys ps ∧
      toProperties Use.toExpr (fillFields (propertyMembers metadata required ps) uses) =
        entries.map fun e => (.ofName e.1, e.2) := by
  induction ps generalizing uses with
  | nil => exact ⟨[], rfl, by simp [propertyMembers, fillFields, toProperties]⟩
  | cons p ps ih =>
    obtain ⟨name, n⟩ := p
    rw [propertyMembers, fillFields, toProperties]
    obtain ⟨entries, hkeys, hproperties⟩ := ih (uses.drop (pipe (outline metadata n (!required name))).holes.length)
    exact ⟨(name, _) :: entries, congrArg (name :: ·) hkeys, by rw [hproperties]; rfl⟩

/-- **The literal of a constant or a default** defines the keys of its object just if they are plain. -/
theorem evaluate_ofFields {fields : List (String × Json.Value)} (hkeys : (Keyed.keys fields).Nodup) :
    evaluate (propertyTexts (propertiesOfFields fields)) =
      some { own := fields.map fun f => (f.1, (Expr.ofValue f.2).text) } ↔ ∀ f ∈ fields, Plain f.1 := by
  have hnames : ((fields.map fun f => (f.1, Expr.ofValue f.2)).map Prod.fst).Nodup := by
    simpa [Keyed.keys, Function.comp_def] using hkeys
  have h := evaluate_ofNames hnames
  rw [← propertiesOfFields_eq, List.map_map, List.forall_mem_map] at h
  exact h

open Validator Validator.Sketch in
/-- **The literal in the validator of an object** defines the properties of the object just if they are plain. -/
theorem evaluate_ofMembers (metadata : Bool) (required : String → Bool) {ps : List (String × Schema.Node)}
    (uses : List Use) (hkeys : (Keyed.keys ps).Nodup) : ∃ own : Keyed String, Keyed.keys own = Keyed.keys ps ∧
      (evaluate (propertyTexts (toProperties Use.toExpr (fillFields (propertyMembers metadata required ps) uses))) =
        some { own } ↔ ∀ name ∈ Keyed.keys ps, Plain name) := by
  obtain ⟨entries, hnames, hproperties⟩ := exists_entries metadata required ps uses
  refine ⟨entries.map fun e => (e.1, e.2.text), by rw [← hnames, Keyed.keys, List.map_map]; rfl, ?_⟩
  rw [hproperties, evaluate_ofNames (hnames ▸ hkeys), ← hnames, List.forall_mem_map]

end Printed

/-! ### Plain names -/

/-- What the literal of named values defines, and which names are plain. -/
structure DefinesNames (entries : List (String × Expr)) : Prop where
  /-- Each name with its value, and nothing else, just if all names are plain. -/
  iff_plain : evaluate (propertyTexts (entries.map fun e => (.ofName e.1, e.2))) =
    some { own := entries.map fun e => (e.1, e.2.text) } ↔ ∀ e ∈ entries, Plain e.1
  /-- Of what is not digits alone, two names are not plain. -/
  words : ∀ e ∈ entries, isDigits e.1.toList = false → (Plain e.1 ↔ e.1 ≠ "" ∧ e.1 ≠ "__proto__")
  /-- The numbers below `2 ^ 53` are plain names. -/
  numbers : ∀ e ∈ entries, ∀ n < 2 ^ 53, e.1 = toString n → Plain e.1
  /-- Digits with a needless zero before them are not. -/
  zeros : ∀ e ∈ entries, isDigits e.1.toList = true → isDecimal e.1.toList = false → ¬ Plain e.1

/-- **What an object literal defines**, when its keys are made of distinct names. -/
theorem defines_ofNames {entries : List (String × Expr)} (hnames : (entries.map Prod.fst).Nodup) :
    DefinesNames entries where
  iff_plain := evaluate_ofNames hnames
  words e _ hword := ⟨fun h => ⟨h.nonempty, h.free⟩, fun h => plain_of_word hword h.1 h.2⟩
  numbers e _ n hn hname := hname ▸ plain_toString hn
  zeros e _ hdigits hzero h := by
    rw [(h.number hdigits).1] at hzero
    cases hzero

/-- A word, a number and a text that is neither. -/
def plainEntries : List (String × Expr) :=
  [("id", .ident "a"), ("200", .ident "b"), ("content \"type\"", .ident "c")]

theorem plainEntries_defines : (plainEntries.map Prod.fst).Nodup ∧ DefinesNames plainEntries ∧
    evaluate (propertyTexts (plainEntries.map fun e => (.ofName e.1, e.2))) =
      some { own := [("id", "a"), ("200", "b"), ("content \"type\"", "c")] } := by
  have hnames : (plainEntries.map Prod.fst).Nodup := by decide
  have defines := defines_ofNames hnames
  refine ⟨hnames, defines, defines.iff_plain.2 fun e he => ?_⟩
  obtain rfl | rfl | rfl : e = ("id", .ident "a") ∨ e = ("200", .ident "b") ∨ e = ("content \"type\"", .ident "c") := by
    simpa [plainEntries] using he
  · exact plain_of_word (by decide) (by decide) (by decide)
  · exact plain_toString (n := 200) (by decide)
  · exact plain_of_word (by decide) (by decide) (by decide)

/-- The properties of an object of the given names. -/
def propertiesNamed (names : List String) : List String :=
  propertyTexts (names.map fun name => (.ofName name, .ident "a"))

/-- Without a name, and with a needless zero, the literal is refused; the prototype is no property; and the digits of
a great number are not all kept. -/
theorem propertiesNamed_lost : evaluate (propertiesNamed [""]) = none ∧ evaluate (propertiesNamed ["007"]) = none ∧
    evaluate (propertiesNamed ["__proto__"]) = some { prototype := some "a" } ∧
    evaluate (propertiesNamed ["12345678901234567890"]) = some { own := [("12345678901234567000", "a")] } := by
  decide +kernel

end Typeforge.Code
