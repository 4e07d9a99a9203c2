import Typeforge.Json.Value

/-!
# Writing JSON

A value on one line, in ASCII: every other character is written by its code units in UTF-16. A double
keeps a point or an exponent, so that it reads back as one.
-/

namespace Typeforge.Json

/-- Doubles from `10 ^ -5` up to `10 ^ 16` are written out, the others with an exponent; a tie goes to the
even digit. -/
def doubleForm : Decimal.Form := ⟨fun k => -4 ≤ k && k ≤ 16, ".0", .even⟩

/-- A code unit as an escape of four hexadecimal digits. -/
def writeUnit (n : Nat) : List Char :=
  '\\' :: 'u' :: [n / 0x1000, n / 0x100, n / 0x10, n].map fun d => Nat.digitChar (d % 16)

def writeChar (c : Char) : List Char :=
  if c = '"' || c = '\\' then ['\\', c]
  else if 0x20 ≤ c.toNat && c.toNat < 0x7f then [c]
  else if c.toNat < 0x10000 then writeUnit c.toNat
  else writeUnit (0xD800 + (c.toNat - 0x10000) / 0x400) ++ writeUnit (0xDC00 + (c.toNat - 0x10000) % 0x400)

def writeString (s : String) : String :=
  String.ofList ('"' :: s.toList.flatMap writeChar ++ ['"'])

mutual

def Value.text : Value → String
  | .null => "null"
  | .bool b => if b then "true" else "false"
  | .number (.whole n) => toString n
  | .number (.float x) => doubleForm.write x
  | .string s => writeString s
  | .array items => "[" ++ itemsText items ++ "]"
  | .object fields => "\x7b" ++ fieldsText fields ++ "\x7d"

def itemsText : List Value → String
  | [] => ""
  | [v] => v.text
  | v :: vs => v.text ++ "," ++ itemsText vs

def fieldsText : List (String × Value) → String
  | [] => ""
  | [(k, v)] => writeString k ++ ":" ++ v.text
  | (k, v) :: fs => writeString k ++ ":" ++ v.text ++ "," ++ fieldsText fs

end

end Typeforge.Json
