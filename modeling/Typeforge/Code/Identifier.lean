/-!
# Identifiers

The names that a declaration may bind: ASCII letters, digits, `_` and `$`, no digit first, and none of the
reserved words. `legalize` makes one of any text.
-/

namespace Typeforge.Code.Identifier

/-- The words that are not bound. -/
def reservedWords : List String := [
  "async", "await", "break", "case", "catch", "class", "const", "continue", "debugger", "default", "delete", "do",
  "else", "enum", "export", "extends", "false", "finally", "for", "function", "if", "implements", "import", "in",
  "instanceof", "interface", "let", "new", "null", "package", "private", "protected", "public", "return", "static",
  "super", "switch", "this", "throw", "true", "try", "typeof", "var", "void", "while", "with", "yield"]

def isReserved (name : String) : Bool := reservedWords.contains name

def isStart (c : Char) : Bool := c.isAlpha || c == '_' || c == '$'

def isPart (c : Char) : Bool := c.isAlphanum || c == '_' || c == '$'

/-- The text has the form of a name, though it may be reserved. -/
def isName (s : String) : Bool :=
  match s.toList with
  | [] => false
  | c :: cs => isStart c && cs.all isPart

/-- A character that a name may hold; an underscore stands for any other. -/
def legalChar (c : Char) : Char := if isPart c then c else '_'

def underscored (s : String) : String := "_" ++ s

/-- A name for the text: other characters become underscores, and an underscore goes before a digit and
before a reserved word. -/
def legalize (s : String) : String :=
  match s.toList.map legalChar with
  | [] => "_empty"
  | c :: cs =>
    let name := String.ofList (c :: cs)
    let name := if c.isDigit then underscored name else name
    if isReserved name then underscored name else name

end Typeforge.Code.Identifier
