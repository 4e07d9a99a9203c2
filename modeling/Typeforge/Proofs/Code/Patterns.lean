import Typeforge.Proofs.Code.Quoted

/-!
# Patterns between slashes

A regular expression literal is read up to the first slash that neither has a backslash before it that takes it nor
stands in a class. It is no literal if a line ends in it, and none if a star or a slash comes first, which would begin a
comment.

* `readPattern_escape`: what is read of an escaped pattern, whatever comes behind it;
* `Enclosable.reads`, `enclosable_of_reads`: which patterns are a literal of their own;
* `marked_inserted`: what the escaping puts into a pattern, and what is left without it;
* `escapeRegex_escapeRegex`: a pattern that is escaped stays as it is.
-/

namespace Typeforge.Code

/-! ### The rules -/

/-- The characters that end a line. -/
def endsLine (c : Char) : Bool := c == '\n' || c == '\r' || c == '\u2028' || c == '\u2029'

/-- The pattern that a literal holds from here on, and what comes after the slash that ends it; `inClass` says whether
the reader is in a class, and `escaped` whether it is behind a backslash that takes the next character. -/
def readPattern (inClass escaped : Bool) : List Char → Option (List Char × List Char)
  | [] => none
  | c :: cs =>
    let goOn (inClass escaped : Bool) := (readPattern inClass escaped cs).map fun (s, rest) => (c :: s, rest)
    if endsLine c then none
    else if escaped then goOn inClass false
    else if c = '\\' then goOn inClass true
    else if c = '/' && !inClass then some ([], cs)
    else if c = '[' then goOn true false
    else if c = ']' then goOn false false
    else goOn inClass false

/-- The pattern of the literal at the front, and what comes after the literal. -/
def readRegex : List Char → Option (List Char × List Char)
  | '/' :: '*' :: _ => none
  | '/' :: '/' :: _ => none
  | '/' :: cs => readPattern false false cs
  | _ => none

/-- Whether a reader stands in a class once it has read the text, none of whose slashes ends the literal. -/
def endsInClass (inClass escaped : Bool) : List Char → Bool
  | [] => inClass
  | c :: cs =>
    if escaped then endsInClass inClass false cs
    else if c = '[' then endsInClass true false cs
    else if c = ']' then endsInClass false false cs
    else endsInClass inClass (c == '\\') cs

/-- A pattern that can stand between slashes. -/
structure Enclosable (p : String) : Prop where
  nonempty : p ≠ ""
  /-- With a star in front, the slash before it begins a comment. -/
  first : p.toList.head? ≠ some '*'
  oneLine : p.toList.any endsLine = false
  /-- No backslash at the end takes the slash behind it. -/
  complete : endsEscaped false p.toList = false
  /-- No class is open at the end. -/
  closed : endsInClass false false p.toList = false

instance (p : String) : Decidable (Enclosable p) :=
  decidable_of_iff (p ≠ "" ∧ p.toList.head? ≠ some '*' ∧ p.toList.any endsLine = false ∧
      endsEscaped false p.toList = false ∧ endsInClass false false p.toList = false)
    ⟨fun h => ⟨h.1, h.2.1, h.2.2.1, h.2.2.2.1, h.2.2.2.2⟩,
      fun h => ⟨h.nonempty, h.first, h.oneLine, h.complete, h.closed⟩⟩

/-- The escaped pattern, with a mark at each character that is not in the pattern itself. -/
def markedFrom (escaped : Bool) : List Char → List (Char × Bool)
  | [] => []
  | c :: cs =>
    let rest := (c, false) :: markedFrom (c == '\\' && !escaped) cs
    if c == '/' && !escaped then ('\\', true) :: rest else rest

/-! ### Reading an escaped pattern -/

section Reading

variable {inClass escaped : Bool} {c : Char} {cs tail : List Char} {p : String}

theorem toList_escapeRegex (p : String) : (escapeRegex p).toList = escapeRegexFrom false p.toList :=
  String.toList_ofList

/-- The escaping goes by the same state as the reader. -/
theorem endsEscaped_single : endsEscaped escaped [c] = (c == '\\' && !escaped) := Bool.and_comm _ _

theorem endsEscaped_cons (escaped : Bool) (c : Char) (cs : List Char) :
    endsEscaped escaped (c :: cs) = endsEscaped (endsEscaped escaped [c]) cs := rfl

theorem endsInClass_cons (inClass escaped : Bool) (c : Char) (cs : List Char) :
    endsInClass inClass escaped (c :: cs) =
      endsInClass (endsInClass inClass escaped [c]) (endsEscaped escaped [c]) cs := by
  cases escaped with
  | true => rfl
  | false =>
    by_cases hopen : c = '['
    · subst hopen
      rfl
    · by_cases hclose : c = ']'
      · subst hclose
        rfl
      · simp [endsInClass, endsEscaped, hopen, hclose]

/-- What is read of one character of the pattern. A slash is read behind a backslash, be that its own. -/
theorem readPattern_escape_cons : readPattern inClass escaped (escapeRegexFrom escaped (c :: cs) ++ tail) =
    if endsLine c then none
    else (readPattern (endsInClass inClass escaped [c]) (endsEscaped escaped [c])
        (escapeRegexFrom (endsEscaped escaped [c]) cs ++ tail)).map
      fun (s, rest) => ((if c == '/' && !escaped then ['\\', c] else [c]) ++ s, rest) := by
  cases escaped with
  | true => simp [escapeRegexFrom, readPattern, endsInClass, endsEscaped]
  | false =>
    by_cases hslash : c = '/'
    · subst hslash
      simp [escapeRegexFrom, endsInClass, endsEscaped, readPattern, endsLine, Function.comp_def]
    · by_cases hbackslash : c = '\\'
      · subst hbackslash
        simp [escapeRegexFrom, readPattern, endsInClass, endsEscaped, endsLine]
      · have hkept : (c == '\\') = false := beq_false_of_ne hbackslash
        by_cases hopen : c = '['
        · subst hopen
          simp [escapeRegexFrom, readPattern, endsInClass, endsEscaped, endsLine]
        · by_cases hclose : c = ']'
          · subst hclose
            simp [escapeRegexFrom, readPattern, endsInClass, endsEscaped, endsLine]
          · simp [escapeRegexFrom, readPattern, endsInClass, endsEscaped, hslash, hbackslash, hkept, hopen, hclose]

theorem escapeRegexFrom_cons : escapeRegexFrom escaped (c :: cs) =
    (if c == '/' && !escaped then ['\\', c] else [c]) ++ escapeRegexFrom (endsEscaped escaped [c]) cs := by
  rw [escapeRegexFrom, endsEscaped_single]
  split <;> rfl

/-- **What is read of an escaped pattern**: none of it, if a line ends in it, and otherwise all of it, whatever comes
behind it. The reader then stands where the pattern leaves it. -/
theorem readPattern_escape : readPattern inClass escaped (escapeRegexFrom escaped cs ++ tail) =
    if cs.any endsLine then none
    else (readPattern (endsInClass inClass escaped cs) (endsEscaped escaped cs) tail).map
      fun (s, rest) => (escapeRegexFrom escaped cs ++ s, rest) := by
  induction cs generalizing inClass escaped with
  | nil =>
    simp [escapeRegexFrom, endsInClass, endsEscaped]
  | cons c cs ih =>
    rw [readPattern_escape_cons, ih, endsInClass_cons _ _ c cs, endsEscaped_cons _ c cs, escapeRegexFrom_cons,
      List.any_cons]
    by_cases hline : endsLine c = true
    · simp [hline]
    · by_cases hlines : cs.any endsLine = true
      · simp [hline, hlines]
      · simp only [hline, hlines, Bool.or_self, Bool.false_eq_true, if_false, Option.map_map]
        refine Option.map_congr fun x _ => ?_
        simp

theorem readPattern_slash : readPattern inClass escaped ('/' :: tail) =
    if inClass || escaped then (readPattern inClass false tail).map fun (s, rest) => ('/' :: s, rest)
    else some ([], tail) := by
  cases inClass <;> cases escaped <;> simp [readPattern, endsLine]

theorem readRegex_front (hne : p ≠ "") : readRegex ('/' :: ((escapeRegex p).toList ++ tail)) =
    if p.toList.head? = some '*' then none else readPattern false false ((escapeRegex p).toList ++ tail) := by
  cases hp : p.toList with
  | nil => exact absurd (String.toList_eq_nil_iff.1 hp) hne
  | cons c cs =>
    rw [toList_escapeRegex, hp]
    by_cases hslash : c = '/'
    · subst hslash
      rfl
    · have hfront : escapeRegexFrom false (c :: cs) = c :: escapeRegexFrom (endsEscaped false [c]) cs := by
        rw [escapeRegexFrom_cons, if_neg (by simpa using hslash), List.singleton_append]
      rw [hfront]
      by_cases hstar : c = '*'
      · subst hstar
        rfl
      · have hread (rest : List Char) : readRegex ('/' :: c :: rest) = readPattern false false (c :: rest) := by
          unfold readRegex
          split
          · rename_i heq
            exact absurd (List.cons.inj (List.cons.inj heq).2).1 hstar
          · rename_i heq
            exact absurd (List.cons.inj (List.cons.inj heq).2).1 hslash
          · rename_i heq
            rw [(List.cons.inj heq).2]
          · rename_i hother
            exact absurd rfl (hother _)
        rw [List.cons_append, hread, List.head?_cons, if_neg (by simpa using hstar)]

/-- **The literal of a pattern that can stand between slashes** ends at the slash behind it. -/
theorem Enclosable.reads (h : Enclosable p) :
    readRegex ('/' :: ((escapeRegex p).toList ++ '/' :: tail)) = some ((escapeRegex p).toList, tail) := by
  have hread : readPattern false false (escapeRegexFrom false p.toList ++ '/' :: tail) =
      some (escapeRegexFrom false p.toList, tail) := by
    rw [readPattern_escape, if_neg (by simp [h.oneLine]), h.closed, h.complete, readPattern_slash]
    simp
  rw [readRegex_front h.nonempty, if_neg h.first, toList_escapeRegex, hread]

/-- **No other pattern is a literal of its own**, whatever its literal would be. -/
theorem enclosable_of_reads {body : List Char} (hne : p ≠ "")
    (h : readRegex ('/' :: ((escapeRegex p).toList ++ ['/'])) = some (body, [])) : Enclosable p := by
  rw [readRegex_front hne, toList_escapeRegex] at h
  split at h
  · cases h
  rename_i hfirst
  rw [readPattern_escape] at h
  split at h
  · cases h
  rename_i hline
  -- behind a backslash or in a class, the last slash is part of the pattern, and nothing ends it
  have hend : (endsInClass false false p.toList || endsEscaped false p.toList) = false := by
    rw [Bool.eq_false_iff]
    intro hopen
    rw [readPattern_slash, if_pos hopen] at h
    simp [readPattern] at h
  rw [Bool.or_eq_false_iff] at hend
  exact ⟨hne, hfirst, by simpa using hline, hend.2, hend.1⟩

end Reading

/-! ### What the escaping adds -/

section Marks

variable {escaped : Bool} {cs : List Char} {p : String}

/-- The escaped pattern is the pattern with what is marked, -/
theorem map_markedFrom : (markedFrom escaped cs).map Prod.fst = escapeRegexFrom escaped cs := by
  induction cs generalizing escaped with
  | nil => rfl
  | cons c cs ih =>
    unfold markedFrom escapeRegexFrom
    split <;> simp [ih]

/-- and without it, it is the pattern. -/
theorem filter_markedFrom : ((markedFrom escaped cs).filter fun x => !x.2).map Prod.fst = cs := by
  induction cs generalizing escaped with
  | nil => rfl
  | cons c cs ih =>
    unfold markedFrom
    split <;> simp [ih]

/-- What is marked is a backslash before a slash that no other backslash takes. -/
theorem marked_inserted {before after : List (Char × Bool)} {d : Char}
    (h : markedFrom escaped cs = before ++ (d, true) :: after) :
    d = '\\' ∧ after.head? = some ('/', false) ∧ endsEscaped escaped (before.map Prod.fst) = false := by
  induction cs generalizing escaped before with
  | nil => simp [markedFrom] at h
  | cons c cs ih =>
    unfold markedFrom at h
    rw [← endsEscaped_single] at h
    split at h
    · rename_i hslash
      obtain ⟨hc, hescaped⟩ : c = '/' ∧ escaped = false := by simpa using hslash
      subst hc hescaped
      rcases before with _ | ⟨b, _ | ⟨b', before⟩⟩
      · obtain ⟨hd, rfl⟩ := List.cons.inj h
        obtain ⟨rfl, -⟩ := Prod.mk.inj hd
        exact ⟨rfl, rfl, rfl⟩
      · cases (List.cons.inj (List.cons.inj h).2).1
      · obtain ⟨rfl, htail⟩ := List.cons.inj h
        obtain ⟨rfl, hrest⟩ := List.cons.inj htail
        obtain ⟨hd, hafter, hbefore⟩ := ih hrest
        exact ⟨hd, hafter, hbefore⟩
    · rcases before with _ | ⟨b, before⟩
      · cases (List.cons.inj h).1
      · obtain ⟨rfl, hrest⟩ := List.cons.inj h
        obtain ⟨hd, hafter, hbefore⟩ := ih hrest
        exact ⟨hd, hafter, hbefore⟩

/-- A slash that the escaping leaves alone has a backslash that takes it. -/
theorem escapeRegexFrom_escaped :
    escapeRegexFrom escaped (escapeRegexFrom escaped cs) = escapeRegexFrom escaped cs := by
  induction cs generalizing escaped with
  | nil => rfl
  | cons c cs ih =>
    rw [escapeRegexFrom_cons]
    split
    · rename_i hslash
      obtain ⟨rfl, rfl⟩ : c = '/' ∧ escaped = false := by simpa using hslash
      exact congrArg (fun s => '\\' :: '/' :: s) ih
    · rename_i hslash
      rw [List.singleton_append, escapeRegexFrom_cons, if_neg hslash, List.singleton_append, ih]

/-- **A pattern that is escaped stays as it is.** -/
theorem escapeRegex_escapeRegex (p : String) : escapeRegex (escapeRegex p) = escapeRegex p := by
  rw [← String.toList_inj, toList_escapeRegex, toList_escapeRegex, escapeRegexFrom_escaped]

end Marks

end Typeforge.Code
