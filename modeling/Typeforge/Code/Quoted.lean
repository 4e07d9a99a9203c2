import Typeforge.Code.Identifier

/-!
# Quoted text

A string literal stands between double quotes. Inside it the quote, the backslash and the characters that
end a line or move to a column are written with a backslash before them. A property name is quoted unless
it has the form of a name. Text in a block comment must not hold the end of the comment.
-/

namespace Typeforge.Code

/-- A character inside a string literal. -/
def escapeChar : Char → List Char
  | '\\' => ['\\', '\\']
  | '"' => ['\\', '"']
  | '\n' => ['\\', 'n']
  | '\r' => ['\\', 'r']
  | '\t' => ['\\', 't']
  | c => [c]

/-- The text between the quotes of a string literal. -/
def escapeString (s : String) : String := String.ofList (s.toList.flatMap escapeChar)

def quoted (s : String) : String := "\"" ++ escapeString s ++ "\""

/-- Whether a property of this name is written in quotes. -/
def needsQuotes (name : String) : Bool := !Identifier.isName name

def propertyName (name : String) : String := if needsQuotes name then quoted name else name

/-- Text for a block comment: a backslash comes between a star and a slash. -/
def escapeCommentChars : List Char → List Char
  | [] => []
  | '*' :: '/' :: cs => '*' :: '\\' :: '/' :: escapeCommentChars cs
  | c :: cs => c :: escapeCommentChars cs

def escapeComment (s : String) : String := String.ofList (escapeCommentChars s.toList)

/-- The body of a regular expression literal: a backslash goes before each slash that has none. `escaped`
says whether a backslash takes the next character with it. -/
def escapeRegexFrom (escaped : Bool) : List Char → List Char
  | [] => []
  | c :: cs =>
    let rest := c :: escapeRegexFrom (c == '\\' && !escaped) cs
    if c == '/' && !escaped then '\\' :: rest else rest

def escapeRegex (pattern : String) : String := String.ofList (escapeRegexFrom false pattern.toList)

end Typeforge.Code
