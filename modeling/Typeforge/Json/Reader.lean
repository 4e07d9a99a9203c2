import Typeforge.Json.Numeral
import Typeforge.Json.Raw

/-!
# Reading JSON

The strict grammar: no comments, no commas at the end, no byte order mark, no control characters in
strings. Every function takes the text that is left and gives back what remains after its part, or `none`
where the text is not well formed. The `fuel` of the nested parts is twice the length of the text, which
no chain of calls uses up: of two calls one has read a character.
-/

namespace Typeforge.Json.Reader

abbrev Rest := List Char

def skipBlank (s : Rest) : Rest :=
  s.dropWhile fun c => c == ' ' || c == '\t' || c == '\n' || c == '\r'

def hexDigit? (c : Char) : Option Nat :=
  if c.isDigit then some (c.toNat - '0'.toNat)
  else if 'a' ≤ c && c ≤ 'f' then some (c.toNat - 'a'.toNat + 10)
  else if 'A' ≤ c && c ≤ 'F' then some (c.toNat - 'A'.toNat + 10)
  else none

/-- Four hexadecimal digits. -/
def unit? : Rest → Option (Nat × Rest)
  | a :: b :: c :: d :: s => do
    return ((((← hexDigit? a) * 16 + (← hexDigit? b)) * 16 + (← hexDigit? c)) * 16 + (← hexDigit? d), s)
  | _ => none

def isHighSurrogate (n : Nat) : Bool := 0xD800 ≤ n && n < 0xDC00

def isLowSurrogate (n : Nat) : Bool := 0xDC00 ≤ n && n < 0xE000

/-- A code unit of UTF-16, with the low half that must follow a high one. Half a pair is no
character. -/
def escapedUnit? (s : Rest) : Option (Option Char × Rest) := do
  let (n, s) ← unit? s
  if isHighSurrogate n then
    match s with
    | '\\' :: 'u' :: t =>
      match unit? t with
      | some (m, t) =>
        if isLowSurrogate m then some (some (Char.ofNat (0x10000 + (n - 0xD800) * 0x400 + (m - 0xDC00))), t)
        else some (none, s)
      | none => some (none, s)
    | _ => some (none, s)
  else if isLowSurrogate n then some (none, s)
  else some (some (Char.ofNat n), s)

/-- What follows a backslash. -/
def escape? : Rest → Option (Option Char × Rest)
  | '"' :: s => some (some '"', s)
  | '\\' :: s => some (some '\\', s)
  | '/' :: s => some (some '/', s)
  | 'b' :: s => some (some '\x08', s)
  | 'f' :: s => some (some '\x0c', s)
  | 'n' :: s => some (some '\n', s)
  | 'r' :: s => some (some '\r', s)
  | 't' :: s => some (some '\t', s)
  | 'u' :: s => escapedUnit? s
  | _ => none

/-- The rest of a string after its opening quote, where `before` is what came so far, last character
first. The text is `none` when it holds half a surrogate pair. -/
def stringFrom (before : Option (List Char)) : Nat → Rest → Option (Option String × Rest)
  | 0, _ => none
  | fuel + 1, s =>
    match s with
    | [] => none
    | '"' :: s => some (before.map fun cs => String.ofList cs.reverse, s)
    | '\\' :: s => do
      let (c, s) ← escape? s
      stringFrom (do return (← c) :: (← before)) fuel s
    | c :: s => if c.toNat < 0x20 then none else stringFrom (before.map (c :: ·)) fuel s

def digits (s : Rest) : List Nat × Rest :=
  ((s.takeWhile Char.isDigit).map fun c => c.toNat - '0'.toNat, s.dropWhile Char.isDigit)

/-- The digits before the point: a zero only on its own. -/
def wholeDigits? (s : Rest) : Option (List Nat × Rest) :=
  match digits s with
  | ([], _) => none
  | (0 :: _ :: _, _) => none
  | (ds, s) => some (ds, s)

def fractionDigits? : Rest → Option (Option (List Nat) × Rest)
  | '.' :: s =>
    match digits s with
    | ([], _) => none
    | (ds, s) => some (some ds, s)
  | s => some (none, s)

def exponentSign : Rest → Bool × Rest
  | '-' :: s => (true, s)
  | '+' :: s => (false, s)
  | s => (false, s)

def exponent? : Rest → Option (Option Int × Rest)
  | [] => some (none, [])
  | c :: s =>
    if c = 'e' || c = 'E' then
      let (negative, s) := exponentSign s
      match digits s with
      | ([], _) => none
      | (ds, s) =>
        let n : Int := Numeral.ofDigits ds
        some (some (if negative then -n else n), s)
    else some (none, c :: s)

def numeral? (s : Rest) : Option (Numeral × Rest) := do
  let (negative, s) := match s with
    | '-' :: t => (true, t)
    | _ => (false, s)
  let (whole, s) ← wholeDigits? s
  let (fraction, s) ← fractionDigits? s
  let (exponent, s) ← exponent? s
  return (⟨negative, whole, fraction, exponent⟩, s)

/-- One of the three words that are values. -/
def word? : Rest → Option (Raw × Rest)
  | 'n' :: 'u' :: 'l' :: 'l' :: s => some (.null, s)
  | 't' :: 'r' :: 'u' :: 'e' :: s => some (.bool true, s)
  | 'f' :: 'a' :: 'l' :: 's' :: 'e' :: s => some (.bool false, s)
  | _ => none

def leafOf (read : Option Raw) : Raw := read.getD .unreadable

/-- The object of fields whose keys may be unreadable. -/
def objectOf (fields : List (Option String × Raw)) : Raw :=
  leafOf do return .object (← fields.mapM fun (key, item) => return (← key, item))

mutual

/-- A value after blanks. -/
def value? : Nat → Rest → Option (Raw × Rest)
  | 0, _ => none
  | fuel + 1, s =>
    match skipBlank s with
    | [] => none
    | '"' :: s => do
      let (text, s) ← stringFrom (some []) (s.length + 1) s
      return (leafOf (text.map .string), s)
    | '[' :: s =>
      match skipBlank s with
      | ']' :: s => some (.array [], s)
      | s => do
        let (items, s) ← items? fuel s
        return (.array items, s)
    | '\x7b' :: s =>
      match skipBlank s with
      | '\x7d' :: s => some (.object [], s)
      | s => do
        let (fields, s) ← fields? fuel s
        return (objectOf fields, s)
    | c :: s =>
      if c = '-' || c.isDigit then do
        let (n, s) ← numeral? (c :: s)
        return (leafOf (n.value?.map .number), s)
      else word? (c :: s)

/-- The items of an array up to its bracket. -/
def items? : Nat → Rest → Option (List Raw × Rest)
  | 0, _ => none
  | fuel + 1, s => do
    let (item, s) ← value? fuel s
    match skipBlank s with
    | ',' :: s => do
      let (items, s) ← items? fuel s
      return (item :: items, s)
    | ']' :: s => return ([item], s)
    | _ => none

/-- The fields of an object up to its brace. -/
def fields? : Nat → Rest → Option (List (Option String × Raw) × Rest)
  | 0, _ => none
  | fuel + 1, s =>
    match skipBlank s with
    | '"' :: s => do
      let (key, s) ← stringFrom (some []) (s.length + 1) s
      match skipBlank s with
      | ':' :: s => do
        let (item, s) ← value? fuel s
        match skipBlank s with
        | ',' :: s => do
          let (fields, s) ← fields? fuel s
          return ((key, item) :: fields, s)
        | '\x7d' :: s => return ([(key, item)], s)
        | _ => none
      | _ => none
    | _ => none

end

end Reader

def Raw.parse? (text : String) : Option Raw := do
  let s := text.toList
  let (raw, rest) ← Reader.value? (2 * s.length + 2) s
  if (Reader.skipBlank rest).isEmpty then some raw else none

/-- How many arrays and objects may nest in a text whose value is taken. -/
def maxLevels : Nat := 127

def Value.parse? (text : String) : Option Value := do
  (← Raw.parse? text).value? maxLevels

end Typeforge.Json
