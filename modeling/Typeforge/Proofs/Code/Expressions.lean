import Typeforge.Proofs.Code.ExprGrammar

/-!
# Expressions are read, if not as themselves

The text of an expression is read as `Expr.reading` says, with the suffixes that follow: what an expression ends with
is one of them, so that only what no suffix ends, and functions, are left to look at.

* `readsWithin`: what an expression with suffixes is read as, whatever ends it;
* `expressions_read`: the whole text of an expression, and when it is read as the expression.
-/

namespace Typeforge.Code

open Text (joinWith)

def suffixesText (ss : List (Suffix Expr)) : List Char := ss.flatMap fun s => s.text.toList

/-! ### Expressions with suffixes -/

/-- Within so much fuel an expression with suffixes is read as what its text is read as. -/
def ReadsWithin (A : Alphabet) (n : Nat) : Prop :=
  ∀ ⦃e : Expr⦄ ⦃ss : List (Suffix Expr)⦄, e.proper A = true → (∀ s ∈ ss, s.proper A = true) →
    (e.text.toList ++ suffixesText ss).length < n → ∀ rest, ExprStops A rest →
      readExprWithin A n (e.text.toList ++ (suffixesText ss ++ rest)) =
        ((ss.mapM Suffix.reading).bind e.reading).map fun t => (t, rest)

section Suffixes

variable {A : Alphabet} {n : Nat} {e : Expr} {ss : List (Suffix Expr)} {c : Char} {cs rest front : List Char}

theorem readExprWithin_space (A : Alphabet) (fuel : Nat) (cs : List Char) :
    readExprWithin A fuel (' ' :: cs) = readExprWithin A fuel cs := by
  cases fuel with
  | zero => rfl
  | succ fuel => rfl

theorem readExprWithin_arrow {params : List ParamTree} (h : readArrowHead A cs = some (params, rest)) (fuel : Nat) :
    readExprWithin A (fuel + 1) cs =
      if (readSign '\x7b' rest).isSome then none
      else (readExprWithin A fuel rest).map fun (body, rest) => (.arrow params body, rest) := by
  rw [readExprWithin, h]

theorem ReadsWithin.readsExpr (h : ReadsWithin A n) (hproper : e.proper A = true) (hlength : e.text.length < n) :
    ReadsExpr A (readExprWithin A n) e := by
  intro rest hrest
  have hlength' : (e.text.toList ++ suffixesText []).length < n := by
    rwa [suffixesText, List.flatMap_nil, List.append_nil, String.length_toList]
  have hread : readExprWithin A n (e.text.toList ++ (suffixesText [] ++ rest)) = _ :=
    h hproper (by simp) hlength' rest hrest
  simpa [suffixesText] using hread

theorem Suffix.beginsWith_text (s : Suffix Expr) : BeginsWith (fun c => c ≠ ' ' ∧ c ∈ suffixSigns) s.text := by
  cases s with
  | member property => exact ⟨'.', property.toList, by simp [text], by decide⟩
  | call args => exact ⟨'(', _, by simp only [text, String.toList_append, List.append_assoc]; rfl, by decide⟩

theorem suffixesText_cons (s : Suffix Expr) (ss : List (Suffix Expr)) :
    suffixesText (s :: ss) = s.text.toList ++ suffixesText ss := List.flatMap_cons

theorem length_le_suffixesText {s : Suffix Expr} (hs : s ∈ ss) : s.text.length ≤ (suffixesText ss).length := by
  obtain ⟨before, after, rfl⟩ := List.append_of_mem hs
  simp only [suffixesText, List.flatMap_append, List.flatMap_cons, List.length_append, String.length_toList]
  omega

theorem length_suffixes_le (ss : List (Suffix Expr)) : ss.length ≤ (suffixesText ss).length := by
  induction ss with
  | nil => exact Nat.le_refl 0
  | cons s ss ih =>
    obtain ⟨c, cs, hc, -⟩ := s.beginsWith_text
    rw [suffixesText_cons, hc, List.length_append, List.length_cons, List.length_cons]
    omega

theorem not_part_of_suffixSigns (A : Alphabet) (h : c ∈ suffixSigns) : A.part c = false := by
  have hsign : IsSign c := by rcases List.mem_pair.1 h with rfl | rfl <;> decide
  rw [A.part_ascii c hsign.1, hsign.2.1]

/-- What goes on with a suffix, or ends an expression, goes on with no name. -/
theorem not_part_suffixes (hrest : ExprStops A rest) : ∀ c ∈ (suffixesText ss ++ rest).head?, A.part c = false := by
  cases ss with
  | nil => exact hrest.part
  | cons s ss =>
    obtain ⟨c, cs, hc, -, hsign⟩ := s.beginsWith_text
    intro d hd
    rw [suffixesText_cons, hc] at hd
    obtain rfl : c = d := Option.some.inj hd
    exact not_part_of_suffixSigns A hsign

theorem ReadsWithin.suffixes (h : ReadsWithin A n) (hproper : ∀ s ∈ ss, s.proper A = true)
    (hlength : (suffixesText ss).length ≤ n) (hrest : ExprStops A rest) :
    readSuffixes suffixSigns (readSuffix A (readExprWithin A n)) ((suffixesText ss ++ rest).length + 1)
      (suffixesText ss ++ rest) = (ss.mapM Suffix.reading).map fun ss => (ss, rest) := by
  have hargs {s : Suffix Expr} (hs : s ∈ ss) (args : List Expr) (hcall : s = .call args) :
      ∀ e ∈ args, ReadsExpr A (readExprWithin A n) e := by
    intro e he
    subst hcall
    have hle : e.text.length ≤ (joinWith ", " (exprTexts args)).length :=
      le_length_joinWith (exprTexts_eq args ▸ List.mem_map_of_mem he)
    have hsuffix := length_le_suffixesText hs
    have hone : "(".length = 1 := rfl
    simp only [Suffix.text, String.length_append] at hsuffix
    exact h.readsExpr (properExprs_iff.1 (hproper _ hs) e he) (by omega)
  have hfuel : ss.length < (suffixesText ss ++ rest).length + 1 := by
    have hle := length_suffixes_le ss
    rw [List.length_append]
    omega
  exact readSuffixes_append hrest.part hrest.sign (fun s _ => s.beginsWith_text)
    (fun c cs hc d hd => Option.some.inj hd ▸ not_part_of_suffixSigns A hc)
    (fun s hs => readSuffix_text (hproper s hs) (readExprWithin_space A n) (hargs hs)) hfuel

theorem ReadsWithin.primary (h : ReadsWithin A n) (hproper : ∀ s ∈ ss, s.proper A = true)
    (hlength : (suffixesText ss).length ≤ n) (hrest : ExprStops A rest) {v : Option ExprTree}
    (harrow : readArrowHead A (front ++ (suffixesText ss ++ rest)) = none)
    (hprimary : readPrimary A (readExprWithin A n) (front ++ (suffixesText ss ++ rest)) =
      v.map fun e => (e, suffixesText ss ++ rest)) :
    readExprWithin A (n + 1) (front ++ (suffixesText ss ++ rest)) =
      ((ss.mapM Suffix.reading).bind fun ss => v.map fun e => e.attach ss).map fun t => (t, rest) := by
  rw [readExprWithin, harrow]
  simp only [hprimary]
  cases v with
  | none => cases ss.mapM Suffix.reading <;> rfl
  | some e =>
    simp only [Option.map_some, Option.bind_some, h.suffixes hproper hlength hrest]
    cases ss.mapM Suffix.reading <;> rfl

theorem readArrowHead_sign (hspace : c ≠ ' ') (hopen : c ≠ '(') (cs : List Char) :
    readArrowHead A (c :: cs) = none := by
  rw [readArrowHead, readSign_ne hspace hopen, Option.bind_none]

theorem readArrowHead_brace (A : Alphabet) (cs : List Char) : readArrowHead A ('(' :: '\x7b' :: cs) = none := by
  have hparam : readParam A ('\x7b' :: cs) = none := by
    rw [readParam, readWord_sign A (by decide), Option.bind_none]
  have hitems (fuel : Nat) : readItems ',' ')' (readParam A) fuel ('\x7b' :: cs) = none := by
    cases fuel with
    | zero => rfl
    | succ fuel => rw [readItems, hparam, Option.bind_none]
  have hlist : readList ',' ')' (readParam A) ('\x7b' :: cs) = none := by
    rw [readList, readSign_ne (by decide) (by decide), skip_cons (by decide)]
    exact hitems _
  rw [readArrowHead, readSign_self (by decide), Option.bind_some, hlist, Option.bind_none]

theorem Expr.beginsWith_atom (h : e.proper A = true) (hatom : e.isAtom = true) :
    BeginsWith (fun c => c ≠ ' ' ∧ c ≠ '(') e.text := by
  have hopens {s : String} (hs : BeginsWith A.Opens s) : BeginsWith (fun c => c ≠ ' ' ∧ c ≠ '(') s :=
    hs.mono fun c hc => by
      have hnone : c ∉ [' ', '('] := hc.not_mem (by decide)
      simpa using hnone
  cases e with
  | ident name => exact hopens (Alphabet.opens_of_isName (Bool.and_eq_true_iff.1 h).1)
  | literal l => exact hopens (Literal.opens_text A h)
  | regex pattern => exact ⟨'/', _, by simp only [text, String.toList_append, List.append_assoc]; rfl, by decide⟩
  | array items => exact ⟨'[', _, by simp only [text, String.toList_append, List.append_assoc]; rfl, by decide⟩
  | object ps =>
    rw [text]
    split
    · exact ⟨'\x7b', ['\x7d'], rfl, by decide⟩
    · exact ⟨'\x7b', _, by simp only [String.toList_append, List.append_assoc]; rfl, by decide⟩
  | call _ _ | arrow _ _ | member _ _ => cases hatom

theorem Expr.length_text_lt {u : Expr} (hatom : e.isAtom = true) (hu : u ∈ e.children) :
    u.text.length < e.text.length := by
  cases e with
  | ident _ | literal _ | regex _ => cases hu
  | array items =>
    have hle : u.text.length ≤ (joinWith ", " (exprTexts items)).length :=
      le_length_joinWith (exprTexts_eq items ▸ List.mem_map_of_mem hu)
    have hone : "[".length = 1 := rfl
    simp only [text, String.length_append]
    omega
  | object ps =>
    obtain ⟨p, hp, rfl⟩ := List.mem_map.1 hu
    have hpair : p.2.text.length ≤ (p.1.text ++ ": " ++ p.2.text).length := by
      simp only [String.length_append]
      omega
    have hle : (p.1.text ++ ": " ++ p.2.text).length ≤ (joinWith ", " (propertyTexts ps)).length :=
      le_length_joinWith (propertyTexts_eq ps ▸ List.mem_map_of_mem hp)
    have hne : ps.isEmpty = false := by
      cases ps with
      | nil => cases hp
      | cons _ _ => rfl
    have htwo : "\x7b ".length = 2 := rfl
    simp only [text, hne, Bool.false_eq_true, if_false, String.length_append]
    omega
  | call _ _ | arrow _ _ | member _ _ => cases hatom

theorem isMember_of_reading {ts : List (Suffix ExprTree)} (h : ss.mapM Suffix.reading = some ts) :
    ts.head?.any Suffix.isMember = ss.head?.any Suffix.isMember := by
  cases ss with
  | nil =>
    obtain rfl : [] = ts := Option.some.inj h
    rfl
  | cons s ss =>
    rw [List.mapM_cons] at h
    obtain ⟨t, hs, hrest⟩ := Option.bind_eq_some_iff.1 h
    obtain ⟨more, -, hts⟩ := Option.bind_eq_some_iff.1 hrest
    obtain rfl : t :: more = ts := Option.some.inj hts
    cases s with
    | member property =>
      obtain rfl : Suffix.member property = t := Option.some.inj hs
      rfl
    | call args =>
      obtain ⟨trees, -, rfl⟩ := Option.map_eq_some_iff.1 hs
      rfl

theorem ReadsWithin.point (h : ReadsWithin A n) (hproper : e.proper A = true)
    (hpoint : (e.isWhole && ss.head?.any Suffix.isMember) = true) (hsuffixes : ∀ s ∈ ss, s.proper A = true)
    (hlength : (suffixesText ss).length ≤ n) (hrest : ExprStops A rest)
    (harrow : readArrowHead A (e.text.toList ++ (suffixesText ss ++ rest)) = none) :
    readExprWithin A (n + 1) (e.text.toList ++ (suffixesText ss ++ rest)) =
      ((ss.mapM Suffix.reading).bind e.reading).map fun t => (t, rest) := by
  obtain ⟨hwhole, hmember⟩ := Bool.and_eq_true_iff.1 hpoint
  have hprimary : readPrimary A (readExprWithin A n) (e.text.toList ++ (suffixesText ss ++ rest)) =
      (none : Option ExprTree).map fun e => (e, suffixesText ss ++ rest) := by
    cases e with
    | literal l =>
      cases ss with
      | nil => cases hmember
      | cons s ss =>
        cases s with
        | member property =>
          obtain ⟨c, cs, hproperty, hc, -⟩ := Alphabet.isName_iff.1 (hsuffixes _ List.mem_cons_self)
          have htext : suffixesText (.member property :: ss) ++ rest =
              '.' :: c :: (cs ++ (suffixesText ss ++ rest)) := by
            simp [suffixesText_cons, Suffix.text, hproperty]
          rw [htext]
          exact readPrimary_point hwhole hc _
        | call args => cases hmember
    | ident _ | call _ _ | arrow _ _ | object _ | member _ _ | array _ | regex _ => cases hwhole
  rw [h.primary hsuffixes hlength hrest harrow hprimary]
  cases hts : ss.mapM Suffix.reading with
  | none => rfl
  | some ts =>
    rw [← isMember_of_reading hts] at hmember
    cases e with
    | literal l =>
      have hnone : (Expr.literal l).reading ts = none := by
        have hwhole' : l.isWhole = true := hwhole
        rw [Expr.reading, hwhole', hmember]
        simp
      rw [Option.bind_some, Option.bind_some, hnone]
      rfl
    | ident _ | call _ _ | arrow _ _ | object _ | member _ _ | array _ | regex _ => cases hwhole

/-- **An atom with suffixes** is read with them, but for a point behind a whole number. -/
theorem ReadsWithin.atom (h : ReadsWithin A n) (hproper : e.proper A = true) (hatom : e.isAtom = true)
    (hsuffixes : ∀ s ∈ ss, s.proper A = true) (hlength : (e.text.toList ++ suffixesText ss).length < n + 1)
    (hrest : ExprStops A rest) : readExprWithin A (n + 1) (e.text.toList ++ (suffixesText ss ++ rest)) =
      ((ss.mapM Suffix.reading).bind e.reading).map fun t => (t, rest) := by
  obtain ⟨c, cs, hc, hspace, hopen⟩ := Expr.beginsWith_atom hproper hatom
  have harrow : readArrowHead A (e.text.toList ++ (suffixesText ss ++ rest)) = none := by
    rw [hc, List.cons_append, readArrowHead_sign hspace hopen]
  rw [List.length_append, String.length_toList] at hlength
  cases hpoint : e.isWhole && ss.head?.any Suffix.isMember with
  | true => exact h.point hproper hpoint hsuffixes (by omega) hrest harrow
  | false =>
    have hchildren : ∀ u ∈ e.children, ReadsExpr A (readExprWithin A n) u := fun u hu =>
      h.readsExpr (Expr.proper_children hproper hu) (by
        have hlt := Expr.length_text_lt hatom hu
        omega)
    have hfirst : e.isWhole = true → (suffixesText ss ++ rest).head? ≠ some '.' := by
      intro hwhole
      rw [hwhole, Bool.true_and] at hpoint
      cases ss with
      | nil => exact hrest.point
      | cons s ss =>
        cases s with
        | member property => cases hpoint
        | call args => simp [suffixesText_cons, Suffix.text]
    have hprimary :=
      readPrimary_text hproper hatom (readExprWithin_space A n) hchildren (not_part_suffixes hrest) hfirst
    rw [h.primary hsuffixes (by omega) hrest harrow hprimary]
    cases hts : ss.mapM Suffix.reading with
    | none => rfl
    | some ts =>
      rw [← isMember_of_reading hts] at hpoint
      rw [Option.bind_some, Option.bind_some, Expr.reading_atom hatom hpoint]

theorem ReadsWithin.enclosed (h : ReadsWithin A n) (hproper : e.proper A = true) (hobject : e.isObject = true)
    (hsuffixes : ∀ s ∈ ss, s.proper A = true) (hlength : (e.text.toList ++ suffixesText ss).length < n)
    (hrest : ExprStops A rest) :
    readExprWithin A (n + 1) ((parenthesized e.text).toList ++ (suffixesText ss ++ rest)) =
      ((ss.mapM Suffix.reading).bind fun ss => (e.reading []).map fun t => t.attach ss).map fun t => (t, rest) := by
  rw [List.length_append, String.length_toList] at hlength
  have hopens : e.opensObject = true := by
    cases e with
    | object _ => rfl
    | ident _ | literal _ | call _ _ | arrow _ _ | member _ _ | array _ | regex _ => cases hobject
  obtain ⟨c, cs, hc, -, hbrace⟩ := Expr.beginsWith_text hproper
  obtain rfl : c = '\x7b' := hbrace.2 hopens
  have htext : (parenthesized e.text).toList ++ (suffixesText ss ++ rest) =
      '(' :: (e.text.toList ++ ')' :: (suffixesText ss ++ rest)) := by
    simp [parenthesized]
  have harrow : readArrowHead A ((parenthesized e.text).toList ++ (suffixesText ss ++ rest)) = none := by
    rw [htext, hc, List.cons_append]
    exact readArrowHead_brace A _
  have hbody := h.readsExpr hproper (by omega) (')' :: (suffixesText ss ++ rest))
    (stops_cons A (by decide) (by decide) _)
  refine h.primary hsuffixes (by omega) hrest harrow ?_
  rw [htext, readPrimary_paren, hbody]
  cases e.reading [] <;> rfl

/-- **A function with suffixes** is read with all of them in its body. -/
theorem ReadsWithin.arrow (h : ReadsWithin A n) (hless : ∀ m < n, ReadsWithin A m) {params : List Param} {body : Expr}
    (hparams : ∀ p ∈ params, p.proper A = true) (hbody : body.proper A = true)
    (hsuffixes : ∀ s ∈ ss, s.proper A = true)
    (hlength : ((Expr.arrow params body).text.toList ++ suffixesText ss).length < n + 1) (hrest : ExprStops A rest) :
    readExprWithin A (n + 1) ((Expr.arrow params body).text.toList ++ (suffixesText ss ++ rest)) =
      ((ss.mapM Suffix.reading).bind (Expr.arrow params body).reading).map fun t => (t, rest) := by
  set bodyText : String := if body.isObject then parenthesized body.text else body.text with hbodyText
  have htext (cs : List Char) : (Expr.arrow params body).text.toList ++ cs =
      '(' :: ((joinWith ", " (params.map Param.text)).toList ++ ')' :: ' ' :: '=' :: '>' :: ' ' ::
        (bodyText.toList ++ cs)) := by
    simp [Expr.text, hbodyText]
  have hshorter : (bodyText.toList ++ suffixesText ss).length + 5 < n := by
    rw [htext] at hlength
    simp only [List.length_cons, List.length_append] at hlength ⊢
    omega
  rw [htext, readExprWithin_arrow (readArrowHead_text hparams _), readSign_space, readExprWithin_space]
  by_cases hobject : body.isObject = true
  · obtain ⟨m, rfl⟩ : ∃ m, n = m + 1 := ⟨n - 1, by omega⟩
    have hparenthesized : bodyText = parenthesized body.text := if_pos hobject
    have hno : readSign '\x7b' ((parenthesized body.text).toList ++ (suffixesText ss ++ rest)) = none := by
      have htext : (parenthesized body.text).toList = '(' :: (body.text.toList ++ [')']) := by simp [parenthesized]
      rw [htext]
      rfl
    have hlength' : (body.text.toList ++ suffixesText ss).length < m := by
      rw [hparenthesized, parenthesized] at hshorter
      simp only [String.toList_append, List.length_append] at hshorter ⊢
      omega
    have hreading (ts : List (Suffix ExprTree)) : (Expr.arrow params body).reading ts =
        (body.reading []).map fun t => .arrow (params.map Param.tree) (t.attach ts) := by
      rw [Expr.reading, if_pos hobject]
    have hm : ReadsWithin A m := hless m (Nat.lt_succ_self m)
    rw [hparenthesized, hno, hm.enclosed hbody hobject hsuffixes hlength' hrest]
    cases ss.mapM Suffix.reading with
    | none => rfl
    | some ts =>
      rw [Option.bind_some, Option.bind_some, hreading]
      cases body.reading [] <;> rfl
  · have hplain : bodyText = body.text := if_neg hobject
    rw [hplain] at hshorter ⊢
    obtain ⟨c, cs, hc, hclosers, hbrace⟩ := Expr.beginsWith_text hbody
    have hspace : c ≠ ' ' := (ne_of_mem_of_not_mem (by decide) hclosers).symm
    cases hopens : body.opensObject with
    | true =>
      obtain rfl : c = '\x7b' := hbrace.2 hopens
      have hreading (ts : List (Suffix ExprTree)) : (Expr.arrow params body).reading ts = none := by
        rw [Expr.reading, if_neg hobject, if_pos hopens]
      rw [hc, List.cons_append, readSign_self (by decide)]
      cases ss.mapM Suffix.reading with
      | none => rfl
      | some ts =>
        rw [Option.bind_some, hreading]
        rfl
    | false =>
      have hno : readSign '\x7b' (body.text.toList ++ (suffixesText ss ++ rest)) = none := by
        have hne : c ≠ '\x7b' := fun hsame => by
          rw [hopens] at hbrace
          cases hbrace.1 hsame
        rw [hc, List.cons_append, readSign_ne hspace hne]
      have hreading (ts : List (Suffix ExprTree)) : (Expr.arrow params body).reading ts =
          (body.reading ts).map (.arrow (params.map Param.tree)) := by
        rw [Expr.reading, if_neg hobject, if_neg (by simp [hopens])]
      rw [hno, h hbody hsuffixes (by omega) rest hrest]
      cases ss.mapM Suffix.reading with
      | none => rfl
      | some ts =>
        rw [Option.bind_some, Option.bind_some, hreading]
        cases body.reading ts <;> rfl

/-- What an expression ends with is the first of its suffixes. -/
theorem suffix_step {u : Expr} {s : Suffix Expr} (htext : e.text = u.text ++ s.text)
    (hreading : ∀ ts, e.reading ts = s.reading.bind fun t => u.reading (t :: ts))
    (h : readExprWithin A n (u.text.toList ++ (suffixesText (s :: ss) ++ rest)) =
      (((s :: ss).mapM Suffix.reading).bind u.reading).map fun t => (t, rest)) :
    readExprWithin A n (e.text.toList ++ (suffixesText ss ++ rest)) =
      ((ss.mapM Suffix.reading).bind e.reading).map fun t => (t, rest) := by
  have htext' : e.text.toList ++ (suffixesText ss ++ rest) = u.text.toList ++ (suffixesText (s :: ss) ++ rest) := by
    simp [htext, suffixesText_cons]
  rw [htext', h, List.mapM_cons]
  cases hs : s.reading with
  | none => cases ss.mapM Suffix.reading <;> simp [hreading, hs]
  | some t => cases ss.mapM Suffix.reading <;> simp [hreading, hs]

/-- **Expressions are read as what their texts are read as**: by the fuel, and within it by what the suffixes are put
behind. -/
theorem readsWithin (A : Alphabet) (n : Nat) : ReadsWithin A n := by
  induction n using Nat.strong_induction_on with
  | h n ih =>
    intro e ss hproper hsuffixes hlength rest hrest
    obtain ⟨n, rfl⟩ : ∃ m, n = m + 1 := ⟨n - 1, by omega⟩
    have hn : ReadsWithin A n := ih n (Nat.lt_succ_self n)
    induction e using Expr.children_induction generalizing ss with
    | h e hchild =>
      have hstep (u : Expr) (s : Suffix Expr) (hu : u ∈ e.children) (hs : s.proper A = true)
          (htext : e.text = u.text ++ s.text)
          (hreading : ∀ ts, e.reading ts = s.reading.bind fun t => u.reading (t :: ts)) :
          readExprWithin A (n + 1) (e.text.toList ++ (suffixesText ss ++ rest)) =
            ((ss.mapM Suffix.reading).bind e.reading).map fun t => (t, rest) := by
        have hlength' : (u.text.toList ++ suffixesText (s :: ss)).length < n + 1 := by
          simpa [htext, suffixesText_cons, Nat.add_assoc] using hlength
        exact suffix_step htext hreading
          (hchild u hu (Expr.proper_children hproper hu) (List.forall_mem_cons.2 ⟨hs, hsuffixes⟩) hlength')
      cases e with
      | ident _ | literal _ | object _ | array _ | regex _ => exact hn.atom hproper rfl hsuffixes hlength hrest
      | member receiver property =>
        exact hstep receiver (.member property) List.mem_cons_self (Bool.and_eq_true_iff.1 hproper).2
          (by simp [Expr.text, Suffix.text, String.append_assoc]) fun ts => rfl
      | call callee args =>
        exact hstep callee (.call args) List.mem_cons_self (Bool.and_eq_true_iff.1 hproper).2
          (by simp [Expr.text, Suffix.text, String.append_assoc]) fun ts => by
            rw [Expr.reading, Suffix.reading]
            cases readings args <;> rfl
      | arrow params body =>
        obtain ⟨hparams, hbody⟩ := Bool.and_eq_true_iff.1 hproper
        have hless : ∀ m < n, ReadsWithin A m := fun m hm => ih m (Nat.lt_succ_of_lt hm)
        exact hn.arrow hless (List.all_eq_true.1 hparams) hbody hsuffixes hlength hrest

end Suffixes

/-- The whole text of an expression is read as what is said of it. -/
theorem ExprTree.read?_text {A : Alphabet} {e : Expr} (h : e.proper A = true) : read? A e.text = e.reading [] := by
  have hexpr : ReadsExpr A (readExprWithin A (e.text.length + 1)) e :=
    (readsWithin A _).readsExpr h (Nat.lt_succ_self _)
  have htext := hexpr [] (stops_nil A _)
  rw [List.append_nil] at htext
  rw [read?, htext]
  cases e.reading [] <;> rfl

/-- **Expressions are read, if not as themselves.** The text of an expression is read as `Expr.reading` says, and that
is the tree of the expression just if the expression is kept. -/
theorem expressions_read {A : Alphabet} {e : Expr} (h : e.proper A = true) :
    ExprTree.read? A e.text = e.reading [] ∧ (ExprTree.read? A e.text = some e.tree ↔ e.kept = true) := by
  have hread := ExprTree.read?_text h
  exact ⟨hread, hread ▸ e.reading_eq_tree_iff⟩

/-- A call with a function, an object, a regular expression and a number in it. -/
def checkCall : Expr :=
  .call (.member (.ident "v") "check") [
    .arrow [⟨"x", some (.array (.ref "Pet")), false⟩] (.call (.member (.regex "a/b") "test") [.ident "x"]),
    .object [(.str "a-b", .literal (.int 1)), (.num "200", .thunk (.object []))]]

theorem checkCall_read :
    ExprTree.read? .ascii "v.check((x: Pet[]) => /a\\/b/.test(x), \x7b \"a-b\": 1, 200: () => (\x7b\x7d) \x7d)" =
      some (.call (.member (.ident "v") "check") [
        .arrow [⟨"x", some (.array (.ref "Pet")), false⟩] (.call (.member (.regex "a\\/b") "test") [.ident "x"]),
        .object [(.str "a-b", .literal (.number "1")), (.num "200", .arrow [] (.object []))]]) :=
  (expressions_read (e := checkCall) (A := .ascii) (by decide)).1

/-- A function that is called is read as a function that calls; a member of an object, as the body of a function, is
read as nothing, and so is a member of a whole number. -/
theorem calls_and_members_read_otherwise :
    ExprTree.read? .ascii (Expr.call (.thunk (.ident "f")) []).text = some (.arrow [] (.call (.ident "f") [])) ∧
    ExprTree.read? .ascii (Expr.thunk (.member (.object []) "a")).text = none ∧
    ExprTree.read? .ascii (Expr.member (.literal (.int 1)) "a").text = none :=
  ⟨ExprTree.read?_text (by decide), ExprTree.read?_text (by decide), ExprTree.read?_text (by decide)⟩

end Typeforge.Code
