import Typeforge.Text.Unicode.Alphanumeric
import Typeforge.Text.Unicode.Cased
import Typeforge.Text.Unicode.CaseMapping
import Typeforge.Text.Unicode.SigmaContext

/-!
# Letters: character classes and full case mappings

The classes of a character over the whole of Unicode, the capital and small forms of a character,
which may be sequences, and the small form of a word, whose last sigma is a final one. On ASCII
each class and each mapping is the rule one expects, and no table is asked.
-/

namespace Typeforge.Text

def isAlphanumeric (c : Char) : Bool :=
  if c.toNat < 128 then c.isAlphanum else Unicode.inClass Unicode.alphanumeric c

def isLowercase (c : Char) : Bool :=
  if c.toNat < 128 then c.isLower else Unicode.inClass Unicode.lowercase c

def isUppercase (c : Char) : Bool :=
  if c.toNat < 128 then c.isUpper else Unicode.inClass Unicode.uppercase c

/-- Characters that have a case or are one of two. -/
def isCased (c : Char) : Bool :=
  if c.toNat < 128 then c.isAlpha else Unicode.inClass Unicode.cased c

/-- Characters that the context of a final sigma passes over. -/
def isCaseIgnorable (c : Char) : Bool :=
  if c.toNat < 128 then ['\'', '.', ':', '^', '`'].contains c
  else Unicode.inClass Unicode.caseIgnorable c

def lowerChar (c : Char) : List Char :=
  if c.toNat < 128 then [c.toLower]
  else if c = 'İ' then ['i', '\u0307']
  else [(Unicode.shifted? Unicode.toLowerShifts c).getD c]

def upperChar (c : Char) : List Char :=
  if c.toNat < 128 then [c.toUpper]
  else match Unicode.toUpperSequences.find? fun e => e.1 == c.toNat with
    | some (_, codes) => codes.map Char.ofNat
    | none => [(Unicode.shifted? Unicode.toUpperShifts c).getD c]

def upperWord (w : List Char) : List Char :=
  w.flatMap upperChar

/-- Whether the next character that counts for a final sigma is cased. -/
def meetsCased (cs : List Char) : Bool :=
  match cs.dropWhile isCaseIgnorable with
  | c :: _ => isCased c
  | [] => false

/-- The small form of the rest of a word, where `before` is what precedes it, last character first. -/
def lowerFrom (before : List Char) : List Char → List Char
  | [] => []
  | c :: cs =>
    let small := if c = 'Σ' then (if meetsCased before && !meetsCased cs then ['ς'] else ['σ']) else lowerChar c
    small ++ lowerFrom (c :: before) cs

def lowerWord (w : List Char) : List Char :=
  lowerFrom [] w

/-- The word with its first character in capital form. -/
def capitalize : List Char → List Char
  | [] => []
  | c :: cs => upperChar c ++ cs

end Typeforge.Text
