/-!
# Replacement, lines and joins

What follows a beginning, replacement of a pattern by another text, from the left and without
overlaps, the lines of a text, and pieces joined by a separator.
-/

namespace Typeforge.Text

/-- What follows the beginning `lead`, when the text begins so. -/
def after? : List Char → List Char → Option (List Char)
  | [], s => some s
  | _ :: _, [] => none
  | c :: cs, d :: ds => if c = d then after? cs ds else none

/-- Writes `new` for every occurrence of the pattern `p :: ps`, from the left; an occurrence that
overlaps an earlier one stays. -/
def replaceAll (p : Char) (ps new : List Char) : List Char → List Char
  | [] => []
  | c :: cs =>
    if (p :: ps).isPrefixOf (c :: cs) then new ++ replaceAll p ps new (cs.drop ps.length)
    else c :: replaceAll p ps new cs
termination_by s => s.length

/-- The stretches of a text between its line feeds. -/
def stretches : List Char → List (List Char)
  | [] => [[]]
  | c :: cs =>
    if c = '\n' then [] :: stretches cs
    else match stretches cs with
      | s :: ss => (c :: s) :: ss
      | [] => [[c]]

/-- A line whose line feed is taken off loses the carriage return before it too. -/
def endLine (line : List Char) : List Char :=
  if line.getLast? = some '\r' then line.dropLast else line

/-- The lines of a text, without their ends. What follows the last line feed is a line unless it is
empty. -/
def lines (s : String) : List String :=
  let parts := stretches s.toList
  let last := parts.getLast?.getD []
  ((parts.dropLast.map endLine) ++ (if last.isEmpty then [] else [last])).map String.ofList

/-- The texts one after the other with a separator between them. -/
def joinWith (separator : String) : List String → String
  | [] => ""
  | [s] => s
  | s :: ss => s ++ separator ++ joinWith separator ss

end Typeforge.Text
