import Typeforge.Text.Unicode.Printable

/-!
# Texts in a listing

A text between quotes in which every character can be seen: quotes, backslashes and line ends are written
with a backslash, and a character that has no glyph of its own by its number.
-/

namespace Typeforge.Text

/-- A character by its number. -/
def listByNumber (c : Char) : List Char := ['\\', 'u', '\x7b'] ++ Nat.toDigits 16 c.toNat ++ ['\x7d']

/-- Whether a character beyond ASCII shows nothing of its own. -/
def hasNoGlyph (c : Char) : Bool :=
  [Unicode.extendingMarks, Unicode.unprintable, Unicode.fillers].any fun runs => Unicode.inClass runs c

def listChar (c : Char) : List Char :=
  if c = '\x00' then ['\\', '0']
  else if c = '\t' then ['\\', 't']
  else if c = '\r' then ['\\', 'r']
  else if c = '\n' then ['\\', 'n']
  else if c = '"' || c = '\\' then ['\\', c]
  else if c.toNat < 0x80 then if c.toNat < 0x20 || c.toNat = 0x7f then listByNumber c else [c]
  else if hasNoGlyph c then listByNumber c
  else [c]

/-- The text in quotes. -/
def listed (s : String) : String := String.ofList ('"' :: s.toList.flatMap listChar ++ ['"'])

end Typeforge.Text
