import Typeforge.Proofs.Code.Tokens
import Typeforge.Proofs.Json.Integers

/-!
# Reading literals

A literal is a string between quotes, a numeral with or without a sign, or one of three words. Numbers that are written
alike are not told apart.

* `Literal.numeral?_text`: the text of a number is a sign, if it has one, and a numeral;
* `readString_append`: a string is read back.
-/

namespace Typeforge.Code

open Decimal (Numeral plain numeral_magnitude numeral_toDigits)
open Identifier (languageWords)

/-! ### The rules -/

inductive LiteralTree where
  | string (s : String)
  /-- Numbers are told apart by their texts. -/
  | number (text : String)
  | bool (b : Bool)
  | null
deriving DecidableEq

def Literal.tree : Literal → LiteralTree
  | .string s => .string s
  | .bool b => .bool b
  | .null => .null
  | l => .number l.text

def Literal.isFinite : Literal → Bool
  | .notANumber | .infinity _ => false
  | _ => true

/-- Whether a number is written with a sign, and what it is written as without it. -/
def Literal.numeral? : Literal → Option (Bool × List Char)
  | .number x => some (x.negative, plain.magnitude x.mantissa x.exponent)
  | .int n => some (decide (n < 0), Nat.toDigits 10 n.natAbs)
  | _ => none

def wordLiteral? (w : String) : Option LiteralTree :=
  if w = "true" then some (.bool true)
  else if w = "false" then some (.bool false)
  else if w = "null" then some .null
  else none

/-- The string at the front, which stands between quotes. -/
def readString : Reader String := fun cs =>
  (readSign '"' cs).bind fun rest => (readQuoted false rest).map fun (s, rest) => (String.ofList s, rest)

section

variable {A : Alphabet} {l : Literal} {negative : Bool} {cs rest : List Char}

/-- **The text of a number is a numeral behind its sign.** -/
theorem Literal.numeral?_text (h : l.numeral? = some (negative, cs)) :
    Numeral cs ∧ l.text.toList = (if negative then ['-'] else []) ++ cs ∧ l.tree = .number l.text := by
  cases l with
  | number x =>
    obtain ⟨rfl, rfl⟩ : x.negative = negative ∧ plain.magnitude x.mantissa x.exponent = cs := by
      simpa [numeral?] using h
    exact ⟨numeral_magnitude _ _, String.toList_ofList, rfl⟩
  | int n =>
    obtain ⟨rfl, rfl⟩ : decide (n < 0) = negative ∧ Nat.toDigits 10 n.natAbs = cs := by simpa [numeral?] using h
    refine ⟨numeral_toDigits _, ?_, rfl⟩
    rw [text, Json.Reader.toList_toString_int]
    simp only [decide_eq_true_eq]
  | string _ | bool _ | null | notANumber | infinity _ => cases h

theorem wordLiteral?_eq_none {w : String} (h : languageWords.contains w = false) : wordLiteral? w = none := by
  have hne (word : String) (hword : languageWords.contains word = true) : w ≠ word := by
    rintro rfl
    rw [h] at hword
    cases hword
  simp [wordLiteral?, hne "true" (by decide), hne "false" (by decide), hne "null" (by decide)]

theorem toList_quoted (s : String) (rest : List Char) :
    (quoted s).toList ++ rest = '"' :: ((escapeString s).toList ++ '"' :: rest) := by simp [quoted]

/-- **A string is read back.** -/
theorem readString_append (s : String) (rest : List Char) :
    readString ((quoted s).toList ++ rest) = some (s, rest) := by
  rw [toList_quoted, readString, readSign_self (by decide), Option.bind_some, (says_escapeString s).reads]
  simp

end

/-! ### How names and literals begin -/

/-- The character begins a name or a literal. -/
def Alphabet.Opens (A : Alphabet) (c : Char) : Prop := A.start c = true ∨ c.isDigit = true ∨ c = '"' ∨ c = '-'

/-- A character of ASCII that begins neither. -/
def opensNothing (c : Char) : Bool := decide (c.toNat < 128) && !Identifier.isPart c && c != '"' && c != '-'

section Opens

variable {A : Alphabet} {c : Char} {cs signs : List Char} {w : String} {l : Literal}

theorem Alphabet.Opens.not_mem (h : A.Opens c) (hsigns : signs.all opensNothing = true) : c ∉ signs := by
  intro hmem
  have hnothing := List.all_eq_true.1 hsigns c hmem
  simp only [opensNothing, Bool.and_eq_true, decide_eq_true_eq, Bool.not_eq_true', bne_iff_ne] at hnothing
  obtain ⟨⟨⟨hascii, hpart⟩, hquote⟩, hminus⟩ := hnothing
  rcases h with hstart | hdigit | h | h
  · rw [A.start_ascii c hascii] at hstart
    rw [Identifier.isPart_of_isStart hstart] at hpart
    cases hpart
  · rw [Identifier.isPart_of_isDigit hdigit] at hpart
    cases hpart
  · exact hquote h
  · exact hminus h

theorem BeginsWith.mono {p q : Char → Prop} {s : String} (h : BeginsWith p s) (hpq : ∀ c, p c → q c) :
    BeginsWith q s := by
  obtain ⟨c, cs, hc, hp⟩ := h
  exact ⟨c, cs, hc, hpq c hp⟩

theorem BeginsWith.of_opens {s : String} (h : BeginsWith A.Opens s) : BeginsWith (· ∉ closers) s :=
  h.mono fun _ hc => hc.not_mem (by decide)

theorem Alphabet.opens_of_isName (h : A.isName w = true) : BeginsWith A.Opens w := by
  obtain ⟨c, cs, hw, hc, -⟩ := Alphabet.isName_iff.1 h
  exact ⟨c, cs, hw, .inl hc⟩

theorem opens_quoted (A : Alphabet) (s : String) : BeginsWith A.Opens (quoted s) :=
  ⟨'"', (escapeString s).toList ++ ['"'], by simpa using toList_quoted s [], .inr (.inr (.inl rfl))⟩

theorem opens_of_isDigits (A : Alphabet) (h : isDigits w.toList = true) : BeginsWith A.Opens w := by
  obtain ⟨hne, hdigits⟩ := isDigits_iff.1 h
  obtain ⟨d, more, hw⟩ := List.exists_cons_of_ne_nil hne
  exact ⟨d, more, hw, .inr (.inl (hdigits d (hw ▸ List.mem_cons_self)))⟩

theorem Literal.opens_text (A : Alphabet) (h : l.isFinite = true) : BeginsWith A.Opens l.text := by
  have hnumber {negative : Bool} {cs : List Char} (hnumeral : l.numeral? = some (negative, cs)) :
      BeginsWith A.Opens l.text := by
    obtain ⟨hcs, htext, -⟩ := numeral?_text hnumeral
    cases negative with
    | true => exact ⟨'-', cs, by simpa using htext, .inr (.inr (.inr rfl))⟩
    | false =>
      obtain ⟨d, more, rfl, hd⟩ := numeral_cons hcs
      exact ⟨d, more, by simpa using htext, .inr (.inl hd)⟩
  cases l with
  | string s => exact opens_quoted A s
  | number _ | int _ => exact hnumber rfl
  | bool b => cases b <;> exact Alphabet.opens_of_isName (A.isName_of_ascii (by decide))
  | null => exact Alphabet.opens_of_isName (A.isName_of_ascii (by decide))
  | notANumber | infinity _ => cases h

theorem opens_propertyName (A : Alphabet) (name : String) : BeginsWith A.Opens (propertyName name) := by
  unfold propertyName needsQuotes
  split
  · exact opens_quoted A name
  · rename_i hname
    exact Alphabet.opens_of_isName (A.isName_of_ascii (by simpa using hname))

end Opens

end Typeforge.Code
