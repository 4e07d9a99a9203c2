/-!
# Texts and keys in TOML

A text stands between quotes on one line, or between triple quotes on several. Between double quotes a
backslash begins an escape; between single quotes every character stands for itself. Every function takes
the text that is left and gives back what remains after its part.
-/

namespace Typeforge.Toml

abbrev Rest := List Char

def isBlank (c : Char) : Bool := c == ' ' || c == '\t'

def skipBlank (s : Rest) : Rest := s.dropWhile isBlank

/-- What follows the end of a line. -/
def newline? : Rest → Option Rest
  | '\n' :: s => some s
  | '\r' :: '\n' :: s => some s
  | _ => none

/-- A character that may stand in a text and in a comment. -/
def isPlain (c : Char) : Bool := c == '\t' || (0x20 ≤ c.toNat && c.toNat != 0x7f)

def hexDigit? (c : Char) : Option Nat :=
  if c.isDigit then some (c.toNat - '0'.toNat)
  else if 'a' ≤ c && c ≤ 'f' then some (c.toNat - 'a'.toNat + 10)
  else if 'A' ≤ c && c ≤ 'F' then some (c.toNat - 'A'.toNat + 10)
  else none

/-- The number that `count` hexadecimal digits write. -/
def hexNumber? (count : Nat) (s : Rest) : Option (Nat × Rest) :=
  let digits := s.take count
  if digits.length < count then none
  else (digits.foldlM (fun n c => (hexDigit? c).map (n * 16 + ·)) 0).map fun n => (n, s.drop count)

/-- A character by its number, which is none of the surrogates. -/
def scalar? (n : Nat) : Option Char := if n.isValidChar then some (Char.ofNat n) else none

/-- What follows a backslash. -/
def escape? : Rest → Option (Char × Rest)
  | 'b' :: s => some ('\x08', s)
  | 't' :: s => some ('\t', s)
  | 'n' :: s => some ('\n', s)
  | 'f' :: s => some ('\x0c', s)
  | 'r' :: s => some ('\r', s)
  | '"' :: s => some ('"', s)
  | '\\' :: s => some ('\\', s)
  | 'u' :: s => do
    let (n, s) ← hexNumber? 4 s
    return (← scalar? n, s)
  | 'U' :: s => do
    let (n, s) ← hexNumber? 8 s
    return (← scalar? n, s)
  | _ => none

/-- The rest of a text in double quotes after the first one. `fuel` is the length of the text. -/
def quotedFrom : Nat → Rest → Option (List Char × Rest)
  | 0, _ => none
  | fuel + 1, s =>
    match s with
    | [] => none
    | '"' :: s => some ([], s)
    | '\\' :: s => do
      let (c, s) ← escape? s
      let (cs, s) ← quotedFrom fuel s
      return (c :: cs, s)
    | c :: s =>
      if isPlain c then do
        let (cs, s) ← quotedFrom fuel s
        return (c :: cs, s)
      else none

/-- The rest of a text in single quotes after the first one. -/
def literalFrom : Rest → Option (List Char × Rest)
  | [] => none
  | '\'' :: s => some ([], s)
  | c :: s => if isPlain c then (literalFrom s).map fun (cs, s) => (c :: cs, s) else none

/-- What remains after blanks and ends of lines. -/
def skipLines : Nat → Rest → Rest
  | 0, s => s
  | fuel + 1, s =>
    match newline? s with
    | some s => skipLines fuel s
    | none =>
      match s with
      | c :: t => if isBlank c then skipLines fuel t else s
      | [] => []

/-- What remains after a backslash at the end of a line, which takes the blanks and ends of lines that
follow with it. -/
def joinedLine? (s : Rest) : Option Rest := (newline? (skipBlank s)).map fun t => skipLines t.length t

/-- The quotes `q` in front: with three or more the text ends before the last three of the first five, and
fewer belong to the text. -/
def closing (q : Char) (s : Rest) : Nat × Bool :=
  let run := (s.takeWhile (· == q)).length
  if run < 3 then (run, false) else (min run 5 - 3, true)

/-- The rest of a text in triple quotes `q`, in which a backslash begins an escape if `escapes` is set. -/
def multilineFrom (q : Char) (escapes : Bool) : Nat → Rest → Option (List Char × Rest)
  | 0, _ => none
  | fuel + 1, s =>
    match newline? s with
    | some s => do
      let (cs, s) ← multilineFrom q escapes fuel s
      return ('\n' :: cs, s)
    | none =>
      match s with
      | [] => none
      | c :: t =>
        if c == q then
          let (quotes, ends) := closing q s
          if ends then some (List.replicate quotes q, s.drop (quotes + 3))
          else do
            let (cs, s) ← multilineFrom q escapes fuel (s.drop quotes)
            return (List.replicate quotes q ++ cs, s)
        else if c == '\\' && escapes then
          match joinedLine? t with
          | some s => multilineFrom q escapes fuel s
          | none => do
            let (c, s) ← escape? t
            let (cs, s) ← multilineFrom q escapes fuel s
            return (c :: cs, s)
        else if isPlain c then do
          let (cs, s) ← multilineFrom q escapes fuel t
          return (c :: cs, s)
        else none

/-- A text in triple quotes after the first three; an end of line right there is no part of it. -/
def multiline? (q : Char) (escapes : Bool) (s : Rest) : Option (String × Rest) :=
  let s := (newline? s).getD s
  (multilineFrom q escapes (s.length + 1) s).map fun (cs, s) => (String.ofList cs, s)

/-- A text on one line after its first quote. -/
def inLine? (q : Char) (s : Rest) : Option (String × Rest) :=
  (if q == '"' then quotedFrom (s.length + 1) s else literalFrom s).map fun (cs, s) => (String.ofList cs, s)

def text? : Rest → Option (String × Rest)
  | '"' :: '"' :: '"' :: s => multiline? '"' true s
  | '\'' :: '\'' :: '\'' :: s => multiline? '\'' false s
  | '"' :: s => inLine? '"' s
  | '\'' :: s => inLine? '\'' s
  | _ => none

def isBareKeyChar (c : Char) : Bool := c.isAlphanum || c == '-' || c == '_'

/-- One part of a key, with or without quotes. -/
def keyPart? (s : Rest) : Option (String × Rest) :=
  match s with
  | [] => none
  | c :: t =>
    if c == '"' || c == '\'' then inLine? c t
    else
      let bare := s.takeWhile isBareKeyChar
      if bare.isEmpty then none else some (String.ofList bare, s.dropWhile isBareKeyChar)

def keyParts : Nat → Rest → Option (List String × Rest)
  | 0, _ => none
  | fuel + 1, s => do
    let (part, s) ← keyPart? (skipBlank s)
    match skipBlank s with
    | '.' :: s => do
      let (parts, s) ← keyParts fuel s
      return (part :: parts, s)
    | s => return ([part], s)

/-- How many parts of a key, or arrays and tables inside each other, are too many. -/
def maxLevels : Nat := 80

/-- A key, and what remains after it and the blanks behind it. -/
def key? (s : Rest) : Option (List String × Rest) := do
  let (parts, s) ← keyParts (s.length + 1) s
  if parts.length < maxLevels then some (parts, s) else none

end Typeforge.Toml
