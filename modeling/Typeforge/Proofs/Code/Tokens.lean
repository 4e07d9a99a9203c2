import Typeforge.Proofs.Code.Bindable
import Typeforge.Proofs.Code.Quoted
import Typeforge.Proofs.Decimal.Numerals

/-!
# Reading tokens and lists

The pieces that types and expressions are read by. A reader takes what it can from the front of a text and leaves the
rest. Of what may stand between tokens, spaces are passed over and everything else is refused.

* `readWord_append`, `readNumeral_append`: a name and a numeral are read to their ends;
* `readList_joinWith`: what is read of items with a separator between them, up to what closes them;
* `readJoined_joinWith`: what is read of operands with an operator between them;
* `readSuffixes_append`: what is read of suffixes, one behind the other.

What an item is read as may be nothing, and then nothing is read of the list.
-/

namespace Typeforge.Code

open Text (joinWith)
open Decimal (Numeral)
open Identifier (languageWords)

/-! ### The rules -/

/-- The characters that names are made of. Those of ASCII are given; which of the others begin a name, and which stand
in one, is left open. -/
structure Alphabet where
  start : Char → Bool
  part : Char → Bool
  start_ascii (c : Char) (h : c.toNat < 128) : start c = Identifier.isStart c
  part_ascii (c : Char) (h : c.toNat < 128) : part c = Identifier.isPart c
  part_of_start (c : Char) (h : start c = true) : part c = true

namespace Alphabet

def ascii : Alphabet where
  start := Identifier.isStart
  part := Identifier.isPart
  start_ascii _ _ := rfl
  part_ascii _ _ := rfl
  part_of_start _ h := Identifier.isPart_of_isStart h

variable (A : Alphabet)

def isName (s : String) : Bool :=
  match s.toList with
  | [] => false
  | c :: cs => A.start c && cs.all A.part

def isIdentifier (s : String) : Bool := A.isName s && !languageWords.contains s

end Alphabet

/-- A sign of ASCII that belongs to no name and to no number. -/
def IsSign (c : Char) : Prop := c.toNat < 128 ∧ Identifier.isPart c = false ∧ c ≠ ' '

instance (c : Char) : Decidable (IsSign c) := inferInstanceAs (Decidable (_ ∧ _ ∧ _))

/-- What is read of a text from its front, and what comes after it. -/
abbrev Reader (α : Type) := List Char → Option (α × List Char)

/-- The text from its next token on. -/
def skip (cs : List Char) : List Char := cs.dropWhile (· == ' ')

/-- What comes after the sign, if that is the next token. -/
def readSign (sign : Char) (cs : List Char) : Option (List Char) :=
  match skip cs with
  | [] => none
  | c :: rest => if c = sign then some rest else none

/-- Whether the sign is the next token, and what comes after it then. -/
def readFlag (sign : Char) (cs : List Char) : Bool × List Char :=
  match readSign sign cs with
  | some rest => (true, rest)
  | none => (false, cs)

def readWord (A : Alphabet) : Reader String := fun cs =>
  match skip cs with
  | [] => none
  | c :: rest =>
    if A.start c then some (String.ofList ((c :: rest).takeWhile A.part), (c :: rest).dropWhile A.part) else none

/-- The digits behind a point, with the point. There may be none. -/
def readFraction : List Char → List Char × List Char
  | '.' :: cs => ('.' :: cs.takeWhile Char.isDigit, cs.dropWhile Char.isDigit)
  | cs => ([], cs)

/-- The numeral at the front. There is none with an exponent. No name may follow directly. -/
def readNumeral (A : Alphabet) : Reader (List Char) := fun cs =>
  let digits := (skip cs).takeWhile Char.isDigit
  let (fraction, rest) := readFraction ((skip cs).dropWhile Char.isDigit)
  if isDigits digits && isDecimal digits && !rest.head?.any A.part then some (digits ++ fraction, rest) else none

/-- Items with the separator between them, up to the sign that closes them; at most as many as `fuel`. -/
def readItems {α : Type} (separator close : Char) (item : Reader α) : Nat → Reader (List α)
  | 0, _ => none
  | fuel + 1, cs =>
    (item cs).bind fun (a, rest) =>
      match readSign close rest with
      | some rest => some ([a], rest)
      | none => (readSign separator rest).bind fun rest =>
        (readItems separator close item fuel rest).map fun (as, rest) => (a :: as, rest)

/-- Any number of items. -/
def readList {α : Type} (separator close : Char) (item : Reader α) : Reader (List α) := fun cs =>
  match readSign close cs with
  | some rest => some ([], rest)
  | none => readItems separator close item (skip cs).length (skip cs)

/-- Operands with the operator between them; at most as many as `fuel`. -/
def readJoined {α : Type} (operator : Char) (operand : Reader α) : Nat → Reader (List α)
  | 0, _ => none
  | fuel + 1, cs =>
    (operand cs).bind fun (a, rest) =>
      match readSign operator rest with
      | some more => (readJoined operator operand fuel more).map fun (as, rest) => (a :: as, rest)
      | none => some ([a], rest)

/-- Suffixes, each of which begins with one of the signs, as long as there are any; fewer than `fuel`. -/
def readSuffixes {α : Type} (signs : List Char) (suffix : Reader α) : Nat → Reader (List α)
  | 0, _ => none
  | fuel + 1, cs =>
    if (skip cs).head?.any signs.contains then
      (suffix cs).bind fun (a, rest) => (readSuffixes signs suffix fuel rest).map fun (as, rest) => (a :: as, rest)
    else some ([], cs)

/-- Where something that a reader has taken may end: no name, number or fraction goes on, and the next token is none of
the signs. -/
structure Stops (A : Alphabet) (signs : List Char) (rest : List Char) : Prop where
  part : ∀ c ∈ rest.head?, A.part c = false
  point : rest.head? ≠ some '.'
  sign : ∀ c ∈ (skip rest).head?, c ∉ signs

/-- From the front of what begins with `text`, where something may end behind it, just that is read as `a`. -/
def Takes {α : Type} (read : Reader α) (stop : List Char → Prop) (text : String) (a : Option α) : Prop :=
  ∀ rest, stop rest → read (text.toList ++ rest) = a.map fun a => (a, rest)

/-- What no item begins with: the space and the signs that close. -/
def closers : List Char := [' ', ')', ']', '\x7d', '>']

/-- The text begins with a character of the kind. -/
def BeginsWith (p : Char → Prop) (s : String) : Prop := ∃ c cs, s.toList = c :: cs ∧ p c

/-! ### Signs -/

section Signs

variable {A : Alphabet} {c sign : Char} {cs rest signs signs' : List Char}

@[simp] theorem skip_space (cs : List Char) : skip (' ' :: cs) = skip cs := rfl

theorem skip_cons (h : c ≠ ' ') : skip (c :: cs) = c :: cs := by simp [skip, h]

@[simp] theorem readSign_space (sign : Char) (cs : List Char) : readSign sign (' ' :: cs) = readSign sign cs := rfl

theorem readSign_self (h : sign ≠ ' ') (cs : List Char) : readSign sign (sign :: cs) = some cs := by
  simp [readSign, skip_cons h]

theorem readSign_ne (hc : c ≠ ' ') (h : c ≠ sign) (cs : List Char) : readSign sign (c :: cs) = none := by
  simp [readSign, skip_cons hc, h]

theorem readSign_eq_none (h : ∀ c ∈ (skip cs).head?, c ≠ sign) : readSign sign cs = none := by
  unfold readSign
  split
  · rfl
  · rename_i c rest hcs
    exact if_neg (h c (by simp [hcs]))

theorem readFlag_append (h : sign ≠ ' ') (hcs : readSign sign cs = none) (flag : Bool) :
    readFlag sign ((if flag then [sign] else []) ++ cs) = (flag, cs) := by
  cases flag with
  | true => simp [readFlag, readSign_self h]
  | false => simp [readFlag, hcs]

theorem Stops.readSign (h : Stops A signs rest) (hsign : sign ∈ signs) : readSign sign rest = none :=
  readSign_eq_none fun c hc hsame => h.sign c hc (hsame ▸ hsign)

theorem Stops.mono (h : Stops A signs rest) (hsigns : signs' ⊆ signs) : Stops A signs' rest :=
  ⟨h.part, h.point, fun c hc hmem => h.sign c hc (hsigns hmem)⟩

theorem stops_nil (A : Alphabet) (signs : List Char) : Stops A signs [] :=
  ⟨by simp, by simp, by simp [skip]⟩

theorem IsSign.not_start (h : IsSign c) : Identifier.isStart c = false := by
  rw [Bool.eq_false_iff]
  intro hstart
  exact absurd (Identifier.isPart_of_isStart hstart) (by simp [h.2.1])

theorem IsSign.not_digit (h : IsSign c) : c.isDigit = false := by
  rw [Bool.eq_false_iff]
  intro hdigit
  exact absurd (Identifier.isPart_of_isDigit hdigit) (by simp [h.2.1])

theorem IsSign.not_part (h : IsSign c) (A : Alphabet) (cs : List Char) : ∀ d ∈ (c :: cs).head?, A.part d = false := by
  intro d hd
  obtain rfl : c = d := Option.some.inj hd
  rw [A.part_ascii c h.1, h.2.1]

theorem stops_cons (A : Alphabet) (h : IsSign c) (hsigns : c ∉ '.' :: signs) (rest : List Char) :
    Stops A signs (c :: rest) where
  part := h.not_part A rest
  point := by
    rw [List.head?_cons, ne_eq, Option.some.injEq]
    exact fun hpoint => hsigns (hpoint ▸ List.mem_cons_self)
  sign d hd := by
    rw [skip_cons h.2.2] at hd
    obtain rfl : c = d := Option.some.inj hd
    exact fun hmem => hsigns (List.mem_cons_of_mem _ hmem)

theorem stops_space (A : Alphabet) (hspace : c ≠ ' ') (hsigns : c ∉ signs) (rest : List Char) :
    Stops A signs (' ' :: c :: rest) where
  part d hd := by
    obtain rfl : ' ' = d := Option.some.inj hd
    rw [A.part_ascii ' ' (by decide)]
    decide
  point := by simp
  sign d hd := by
    rw [skip_space, skip_cons hspace] at hd
    obtain rfl : c = d := Option.some.inj hd
    exact hsigns

end Signs

/-! ### Words and numerals -/

section Words

variable {A : Alphabet} {c : Char} {cs rest : List Char} {w : String}

theorem Alphabet.isName_iff :
    A.isName w = true ↔ ∃ c cs, w.toList = c :: cs ∧ A.start c = true ∧ ∀ d ∈ cs, A.part d = true := by
  unfold isName
  cases w.toList with
  | nil => simp
  | cons c cs => simp

theorem Alphabet.start_eq (A : Alphabet) {c : Char} (h : c.toNat < 128) (hstart : Identifier.isStart c = false) :
    A.start c = false := by rw [A.start_ascii c h, hstart]

theorem Alphabet.ne_of_start {d : Char} (hc : A.start c = true) (hd : d.toNat < 128)
    (hstart : Identifier.isStart d = false) : c ≠ d := by
  rintro rfl
  rw [A.start_eq hd hstart] at hc
  cases hc

theorem takeWhile_append {p : Char → Bool} (hcs : ∀ c ∈ cs, p c = true) (hrest : ∀ c ∈ rest.head?, p c = false) :
    (cs ++ rest).takeWhile p = cs ∧ (cs ++ rest).dropWhile p = rest := by
  rw [List.takeWhile_append_of_pos hcs, List.dropWhile_append_of_pos hcs]
  cases rest with
  | nil => simp
  | cons c rest =>
    have hc : p c = false := hrest c rfl
    simp [hc]

/-- **A word is read to its end.** -/
theorem readWord_append (h : A.isName w = true) (hrest : ∀ c ∈ rest.head?, A.part c = false) :
    readWord A (w.toList ++ rest) = some (w, rest) := by
  obtain ⟨c, cs, hw, hc, hcs⟩ := Alphabet.isName_iff.1 h
  have hparts : ∀ d ∈ w.toList, A.part d = true := by
    intro d hd
    rw [hw, List.mem_cons] at hd
    rcases hd with rfl | hd
    · exact A.part_of_start d hc
    · exact hcs d hd
  obtain ⟨htake, hdrop⟩ := takeWhile_append hparts hrest
  have hspace : c ≠ ' ' := Alphabet.ne_of_start hc (by decide) (by decide)
  have hskip : skip (w.toList ++ rest) = c :: (cs ++ rest) := by rw [hw, List.cons_append, skip_cons hspace]
  have hfront : c :: (cs ++ rest) = w.toList ++ rest := by rw [hw, List.cons_append]
  simp only [readWord, hskip, hc, if_true]
  rw [hfront, htake, hdrop, String.ofList_toList]

theorem ascii_of_isPart (h : Identifier.isPart c = true) : c.toNat < 128 := by
  have hupper (hu : c.isUpper = true) : c.val ≤ 'Z'.val := (of_decide_eq_true hu).2
  have hlower (hl : c.isLower = true) : c.val ≤ 'z'.val := of_decide_eq_true (Bool.and_eq_true_iff.1 hl).2
  have hdigit (hd : c.isDigit = true) : c.val ≤ '9'.val := of_decide_eq_true (Bool.and_eq_true_iff.1 hd).2
  have hbound {d : Char} (hd : d.toNat < 128) (hle : c.val ≤ d.val) : c.toNat < 128 :=
    Nat.lt_of_le_of_lt (UInt32.le_iff_toNat_le.1 hle) hd
  have halpha : c.isAlpha = (c.isUpper || c.isLower) := rfl
  simp only [Identifier.isPart, Char.isAlphanum, halpha, Bool.or_eq_true, beq_iff_eq] at h
  rcases h with (((hu | hl) | hd) | rfl) | rfl
  · exact hbound (by decide) (hupper hu)
  · exact hbound (by decide) (hlower hl)
  · exact hbound (by decide) (hdigit hd)
  · decide
  · decide

theorem Alphabet.isName_of_ascii (A : Alphabet) (h : Identifier.isName w = true) : A.isName w = true := by
  obtain ⟨c, cs, hw, hc, hcs⟩ := Identifier.isName_iff.1 h
  refine Alphabet.isName_iff.2 ⟨c, cs, hw, ?_, fun d hd => ?_⟩
  · rw [A.start_ascii c (ascii_of_isPart (Identifier.isPart_of_isStart hc)), hc]
  · rw [A.part_ascii d (ascii_of_isPart (hcs d hd)), hcs d hd]

theorem readWord_sign (A : Alphabet) (h : IsSign c) (cs : List Char) : readWord A (c :: cs) = none := by
  simp [readWord, skip_cons h.2.2, A.start_eq h.1 h.not_start]

theorem isDigits_iff : isDigits cs = true ↔ cs ≠ [] ∧ ∀ c ∈ cs, c.isDigit = true := by simp [isDigits]

theorem numeral_cons (h : Numeral cs) : ∃ c more, cs = c :: more ∧ c.isDigit = true := by
  obtain ⟨digits, more, rfl, hdigits⟩ : ∃ digits more, cs = digits ++ more ∧ isDigits digits = true := by
    cases h with
    | whole hdigits => exact ⟨cs, [], by simp, hdigits⟩
    | fraction hdigits => exact ⟨_, _, rfl, hdigits⟩
  obtain ⟨hne, hall⟩ := isDigits_iff.1 hdigits
  obtain ⟨c, tail, rfl⟩ := List.exists_cons_of_ne_nil hne
  exact ⟨c, tail ++ more, rfl, hall c List.mem_cons_self⟩

theorem ne_of_isDigit {d : Char} (hc : c.isDigit = true) (hd : d.isDigit = false) : c ≠ d := by
  rintro rfl
  rw [hc] at hd
  cases hd

theorem skip_digit (hc : c.isDigit = true) : skip (c :: cs) = c :: cs := skip_cons (ne_of_isDigit hc (by decide))

theorem ascii_of_isDigit (h : c.isDigit = true) : c.toNat < 128 := ascii_of_isPart (Identifier.isPart_of_isDigit h)

theorem readWord_digit (A : Alphabet) (h : c.isDigit = true) (cs : List Char) : readWord A (c :: cs) = none := by
  have hstart : A.start c = false := A.start_eq (ascii_of_isDigit h) (Identifier.not_isStart_of_isDigit h)
  simp [readWord, skip_digit h, hstart]

theorem not_isDigit_of_part (h : A.part c = false) : c.isDigit = false := by
  rw [Bool.eq_false_iff]
  intro hc
  rw [A.part_ascii c (ascii_of_isDigit hc), Identifier.isPart_of_isDigit hc] at h
  cases h

theorem not_isDigit_of_start (h : A.start c = true) : c.isDigit = false := by
  rw [Bool.eq_false_iff]
  intro hc
  rw [A.start_ascii c (ascii_of_isDigit hc)] at h
  rw [Identifier.isDigit_of_isStart h] at hc
  cases hc

theorem not_isDigit_point (cs : List Char) : ∀ d ∈ ('.' :: cs).head?, d.isDigit = false := by
  intro d hd
  obtain rfl : '.' = d := Option.some.inj hd
  decide

/-- **A numeral is read to its end.** -/
theorem readNumeral_append (h : Numeral cs) (hpart : ∀ c ∈ rest.head?, A.part c = false)
    (hpoint : rest.head? = some '.' → '.' ∈ cs) : readNumeral A (cs ++ rest) = some (cs, rest) := by
  have hrest : ∀ c ∈ rest.head?, c.isDigit = false := fun c hc => not_isDigit_of_part (hpart c hc)
  have hend : (rest.head?.any A.part) = false := by
    cases hfirst : rest.head? with
    | none => rfl
    | some c => exact hpart c hfirst
  have hskip : skip (cs ++ rest) = cs ++ rest := by
    obtain ⟨c, more, rfl, hc⟩ := numeral_cons h
    exact skip_digit hc
  cases h with
  | whole hdigits hdecimal =>
    obtain ⟨-, hall⟩ := isDigits_iff.1 hdigits
    obtain ⟨htake, hdrop⟩ := takeWhile_append hall hrest
    have hfraction : readFraction rest = ([], rest) := by
      unfold readFraction
      split
      · -- no point is among digits
        exact absurd (hall _ (hpoint rfl)) (by decide)
      · rfl
    simp only [readNumeral, hskip, htake, hdrop, hfraction, hdigits, hdecimal, hend, List.append_nil]
    rfl
  | @fraction digits more hdigits hdecimal hmore =>
    obtain ⟨-, hall⟩ := isDigits_iff.1 hdigits
    obtain ⟨-, hall'⟩ := isDigits_iff.1 hmore
    obtain ⟨htake, hdrop⟩ := takeWhile_append hall (not_isDigit_point (more ++ rest))
    obtain ⟨htake', hdrop'⟩ := takeWhile_append hall' hrest
    rw [List.append_assoc, List.cons_append] at hskip ⊢
    simp only [readNumeral, hskip, htake, hdrop, readFraction, htake', hdrop', hdigits, hdecimal, hend]
    rfl

theorem readNumeral_sign (A : Alphabet) (h : IsSign c) (cs : List Char) : readNumeral A (c :: cs) = none := by
  have hnone : isDigits ([] : List Char) = false := rfl
  simp [readNumeral, skip_cons h.2.2, h.not_digit, hnone]

/-- A point behind a numeral without one belongs to it, so that a name behind the point is read as none. -/
theorem readNumeral_name (hdigits : isDigits cs = true) (hstart : A.start c = true) :
    readNumeral A (cs ++ '.' :: c :: rest) = none := by
  obtain ⟨hne, hall⟩ := isDigits_iff.1 hdigits
  obtain ⟨htake, hdrop⟩ := takeWhile_append hall (not_isDigit_point (c :: rest))
  have hskip : skip (cs ++ '.' :: c :: rest) = cs ++ '.' :: c :: rest := by
    obtain ⟨d, more, rfl⟩ := List.exists_cons_of_ne_nil hne
    exact skip_digit (hall d List.mem_cons_self)
  have hdigit : c.isDigit = false := not_isDigit_of_start hstart
  have hpart : A.part c = true := A.part_of_start c hstart
  simp [readNumeral, hskip, htake, hdrop, readFraction, hdigit, hpart]

end Words

/-! ### Lists -/

/-- How a list of items can be told apart from what is around it. -/
structure Listed {α : Type} (item : Reader α) (stop : List Char → Prop) (separator close : Char) : Prop where
  skips (cs : List Char) : item (' ' :: cs) = item cs
  stops (cs : List Char) : stop (separator :: cs)
  separator_ne : separator ≠ ' '
  closes : close ∈ closers
  differ : separator ≠ close

/-- A separator is told from what it stands between by the signs that go on with an item. -/
theorem Listed.of_stops {α : Type} {A : Alphabet} {item : Reader α} {signs : List Char} {separator close : Char}
    (hskips : ∀ cs, item (' ' :: cs) = item cs) (hsign : IsSign separator) (hsigns : separator ∉ '.' :: close :: signs)
    (hclose : close ∈ closers) : Listed item (Stops A signs) separator close where
  skips := hskips
  stops cs := stops_cons A hsign (fun hmem => hsigns (List.cons_subset_cons _ (List.subset_cons_self _ _) hmem)) cs
  separator_ne := hsign.2.2
  closes := hclose
  differ hsame := hsigns (List.mem_cons_of_mem _ (hsame ▸ List.mem_cons_self))

section Lists

variable {α β : Type} {item : Reader α} {stop : List Char → Prop} {separator close operator : Char} {sep : String}
  {text : β → String} {value : β → Option α} {items : List β} {tail rest signs : List Char} {fuel : Nat}

theorem length_le_joinWith (hsep : 0 < sep.length) (texts : List String) :
    texts.length ≤ (joinWith sep texts).length + 1 := by
  induction texts with
  | nil => simp [joinWith]
  | cons s texts ih =>
    cases texts with
    | nil => simp
    | cons s' texts =>
      simp only [joinWith, String.length_append, List.length_cons] at ih ⊢
      omega

theorem le_length_joinWith {s : String} {texts : List String} (h : s ∈ texts) :
    s.length ≤ (joinWith sep texts).length := by
  induction texts with
  | nil => cases h
  | cons s' texts ih =>
    cases texts with
    | nil =>
      rw [List.mem_singleton.1 h]
      exact Nat.le_refl _
    | cons s'' texts =>
      simp only [joinWith, String.length_append]
      rcases List.mem_cons.1 h with rfl | h
      · omega
      · have hle := ih h
        omega

theorem BeginsWith.append {p : Char → Prop} {s : String} (h : BeginsWith p s) (t : String) : BeginsWith p (s ++ t) := by
  obtain ⟨c, cs, hc, hp⟩ := h
  exact ⟨c, cs ++ t.toList, by rw [String.toList_append, hc, List.cons_append], hp⟩

theorem BeginsWith.skip {s : String} (h : BeginsWith (· ∉ closers) s) (rest : List Char) :
    skip (s.toList ++ rest) = s.toList ++ rest := by
  obtain ⟨c, cs, hc, hnone⟩ := h
  rw [hc, List.cons_append, skip_cons (ne_of_mem_of_not_mem (by decide) hnone).symm]

theorem BeginsWith.joinWith {p : Char → Prop} {s : String} (h : BeginsWith p s) (texts : List String) :
    BeginsWith p (joinWith sep (s :: texts)) := by
  cases texts with
  | nil => exact h
  | cons s' texts =>
    have htext : Text.joinWith sep (s :: s' :: texts) = s ++ (sep ++ Text.joinWith sep (s' :: texts)) := by
      simp [Text.joinWith, String.append_assoc]
    exact htext ▸ h.append _

theorem readItems_space (h : Listed item stop separator close) (fuel : Nat) (cs : List Char) :
    readItems separator close item fuel (' ' :: cs) = readItems separator close item fuel cs := by
  cases fuel with
  | zero => rfl
  | succ fuel => rw [readItems, readItems, h.skips]

/-- **Items are read one after the other**, up to the sign that closes them. -/
theorem readItems_joinWith (h : Listed item stop separator close) (hsep : sep.toList = [separator, ' '])
    (htail : stop tail) (hclose : readSign close tail = some rest) (hne : items ≠ [])
    (hitems : ∀ b ∈ items, Takes item stop (text b) (value b)) (hfuel : items.length ≤ fuel) :
    readItems separator close item fuel ((joinWith sep (items.map text)).toList ++ tail) =
      (items.mapM value).map fun as => (as, rest) := by
  induction items generalizing fuel with
  | nil => exact absurd rfl hne
  | cons b items ih =>
    obtain ⟨fuel, rfl⟩ : ∃ n, fuel = n + 1 := ⟨fuel - 1, by simp at hfuel; omega⟩
    have hb := hitems b List.mem_cons_self
    cases items with
    | nil =>
      rw [List.map_singleton, joinWith, readItems, hb tail htail]
      cases hvalue : value b with
      | none => simp [hvalue]
      | some a => simp [hvalue, hclose]
    | cons b' items =>
      have htext : (joinWith sep ((b :: b' :: items).map text)).toList ++ tail =
          (text b).toList ++ separator :: ' ' :: ((joinWith sep ((b' :: items).map text)).toList ++ tail) := by
        simp [joinWith, hsep]
      have hless : (b' :: items).length ≤ fuel := by simpa using hfuel
      have hrest := ih (by simp) (fun b hb => hitems b (List.mem_cons_of_mem _ hb)) hless
      rw [htext, readItems, hb _ (h.stops _)]
      cases hvalue : value b with
      | none => simp [List.mapM_cons, hvalue]
      | some a =>
        simp only [Option.map_some, Option.bind_some, readSign_ne h.separator_ne h.differ, readSign_self h.separator_ne]
        rw [readItems_space h, hrest]
        cases hvalues : (b' :: items).mapM value with
        | none => simp [List.mapM_cons, hvalue, hvalues]
        | some as => simp [List.mapM_cons, hvalue, hvalues]

/-- **A list is read to the sign that closes it.** -/
theorem readList_joinWith (h : Listed item stop separator close) (hsep : sep.toList = [separator, ' '])
    (htail : stop tail) (hclose : readSign close tail = some rest)
    (hfirst : ∀ b ∈ items, BeginsWith (· ∉ closers) (text b))
    (hitems : ∀ b ∈ items, Takes item stop (text b) (value b)) :
    readList separator close item ((joinWith sep (items.map text)).toList ++ tail) =
      (items.mapM value).map fun as => (as, rest) := by
  cases items with
  | nil => simp [readList, joinWith, hclose]
  | cons b items =>
    obtain ⟨c, more, hc, hnone⟩ : BeginsWith (· ∉ closers) (joinWith sep ((b :: items).map text)) :=
      (hfirst b List.mem_cons_self).joinWith (items.map text)
    have hspace : c ≠ ' ' := ne_of_mem_of_not_mem (by decide) hnone |>.symm
    have hne : c ≠ close := (ne_of_mem_of_not_mem h.closes hnone).symm
    have hfuel : (b :: items).length ≤ ((joinWith sep ((b :: items).map text)).toList ++ tail).length := by
      have hpositive : 0 < sep.length := by simp [← String.length_toList, hsep]
      have hlength := length_le_joinWith hpositive ((b :: items).map text)
      have htail : tail ≠ [] := by
        rintro rfl
        cases hclose
      have hpos := List.length_pos_of_ne_nil htail
      rw [List.length_append, String.length_toList]
      rw [List.length_map] at hlength
      omega
    have hread := readItems_joinWith h hsep htail hclose (List.cons_ne_nil b items) hitems hfuel
    have htext : (joinWith sep ((b :: items).map text)).toList ++ tail = c :: (more ++ tail) := by
      rw [hc, List.cons_append]
    rw [htext] at hread ⊢
    rw [readList, readSign_ne hspace hne]
    simp only [skip_cons hspace]
    exact hread

@[simp] theorem readList_space (cs : List Char) :
    readList separator close item (' ' :: cs) = readList separator close item cs := rfl

theorem readJoined_space (hskips : ∀ cs, item (' ' :: cs) = item cs) (fuel : Nat) (cs : List Char) :
    readJoined operator item fuel (' ' :: cs) = readJoined operator item fuel cs := by
  cases fuel with
  | zero => rfl
  | succ fuel => rw [readJoined, readJoined, hskips]

/-- **Operands are read one after the other**, as long as the operator comes next. -/
theorem readJoined_joinWith (hskips : ∀ cs, item (' ' :: cs) = item cs) (hstops : ∀ cs, stop (' ' :: operator :: cs))
    (hoperator : operator ≠ ' ') (hsep : sep.toList = [' ', operator, ' ']) (htail : stop tail)
    (hend : readSign operator tail = none) (hne : items ≠ [])
    (hitems : ∀ b ∈ items, Takes item stop (text b) (value b)) (hfuel : items.length ≤ fuel) :
    readJoined operator item fuel ((joinWith sep (items.map text)).toList ++ tail) =
      (items.mapM value).map fun as => (as, tail) := by
  induction items generalizing fuel with
  | nil => exact absurd rfl hne
  | cons b items ih =>
    obtain ⟨fuel, rfl⟩ : ∃ n, fuel = n + 1 := ⟨fuel - 1, by simp at hfuel; omega⟩
    have hb := hitems b List.mem_cons_self
    cases items with
    | nil =>
      rw [List.map_singleton, joinWith, readJoined, hb tail htail]
      cases hvalue : value b with
      | none => simp [hvalue]
      | some a => simp [hvalue, hend]
    | cons b' items =>
      have htext : (joinWith sep ((b :: b' :: items).map text)).toList ++ tail =
          (text b).toList ++ ' ' :: operator :: ' ' :: ((joinWith sep ((b' :: items).map text)).toList ++ tail) := by
        simp [joinWith, hsep]
      have hless : (b' :: items).length ≤ fuel := by simpa using hfuel
      have hrest := ih (by simp) (fun b hb => hitems b (List.mem_cons_of_mem _ hb)) hless
      rw [htext, readJoined, hb _ (hstops _)]
      cases hvalue : value b with
      | none => simp [List.mapM_cons, hvalue]
      | some a =>
        simp only [Option.map_some, Option.bind_some, readSign_space, readSign_self hoperator]
        rw [readJoined_space hskips, hrest]
        cases hvalues : (b' :: items).mapM value with
        | none => simp [List.mapM_cons, hvalue, hvalues]
        | some as => simp [List.mapM_cons, hvalue, hvalues]

/-- **Suffixes are read one after the other**, up to where none begins. -/
theorem readSuffixes_append (htail : stop tail) (hend : ∀ c ∈ (skip tail).head?, c ∉ signs)
    (hfirst : ∀ b ∈ items, BeginsWith (fun c => c ≠ ' ' ∧ c ∈ signs) (text b))
    (hstops : ∀ c cs, c ∈ signs → stop (c :: cs))
    (hitems : ∀ b ∈ items, Takes item stop (text b) (value b)) (hfuel : items.length < fuel) :
    readSuffixes signs item fuel ((items.flatMap fun b => (text b).toList) ++ tail) =
      (items.mapM value).map fun as => (as, tail) := by
  induction items generalizing fuel with
  | nil =>
    obtain ⟨fuel, rfl⟩ : ∃ n, fuel = n + 1 := ⟨fuel - 1, by simp at hfuel; omega⟩
    have hnone : ((skip tail).head?.any signs.contains) = false := by
      cases hhead : (skip tail).head? with
      | none => rfl
      | some c => simpa using hend c hhead
    simp [readSuffixes, hnone]
  | cons b items ih =>
    obtain ⟨fuel, rfl⟩ : ∃ n, fuel = n + 1 := ⟨fuel - 1, by simp at hfuel; omega⟩
    obtain ⟨c, more, hc, hspace, hsign⟩ := hfirst b List.mem_cons_self
    have hless : items.length < fuel := by simpa using hfuel
    have hrest := ih (fun b hb => hfirst b (List.mem_cons_of_mem _ hb))
      (fun b hb => hitems b (List.mem_cons_of_mem _ hb)) hless
    set behind := (items.flatMap fun b => (text b).toList) ++ tail with hbehind
    have hstop : stop behind := by
      cases items with
      | nil => simpa [hbehind] using htail
      | cons b' items =>
        obtain ⟨c', more', hc', -, hsign'⟩ := hfirst b' (by simp)
        simpa [hbehind, hc'] using hstops c' _ hsign'
    have htext : ((b :: items).flatMap fun b => (text b).toList) ++ tail = (text b).toList ++ behind := by
      simp [hbehind]
    have hbegins : (skip ((text b).toList ++ behind)).head?.any signs.contains = true := by
      rw [hc, List.cons_append, skip_cons hspace]
      simpa using hsign
    rw [htext, readSuffixes, if_pos hbegins, hitems b List.mem_cons_self _ hstop]
    cases hvalue : value b with
    | none => simp [List.mapM_cons, hvalue]
    | some a =>
      simp only [Option.map_some, Option.bind_some]
      rw [hrest]
      cases hvalues : items.mapM value with
      | none => simp [List.mapM_cons, hvalue, hvalues]
      | some as => simp [List.mapM_cons, hvalue, hvalues]

end Lists

end Typeforge.Code
