import Typeforge.Text.Replace
import Typeforge.Text.Words

/-!
# Letter cases of names

A case joins the words of a text again, each in small or capital letters.
-/

namespace Typeforge.Naming

inductive Case where
  | camel
  | pascal
  | snake
  | screamingSnake
  /-- The text as it is. -/
  | preserve
deriving DecidableEq

namespace Case

/-- The spellings of the cases. -/
def words : List (String × Case) :=
  [("camelCase", .camel), ("PascalCase", .pascal), ("snake_case", .snake),
    ("SCREAMING_SNAKE_CASE", .screamingSnake), ("preserve", .preserve)]

/-- Small letters, but the first character is capital. -/
def titled (w : List Char) : List Char := Text.capitalize (Text.lowerWord w)

/-- Words one after the other, all but the first with a capital. -/
def joinCamel : List (List Char) → List Char
  | [] => []
  | w :: ws => Text.lowerWord w ++ ws.flatMap titled

def apply (c : Case) (s : String) : String :=
  let ws := Text.words s.toList
  match c with
  | .camel => String.ofList (joinCamel ws)
  | .pascal => String.ofList (ws.flatMap titled)
  | .snake => String.ofList (List.intercalate ['_'] (ws.map Text.lowerWord))
  | .screamingSnake => String.ofList (List.intercalate ['_'] (ws.map Text.upperWord))
  | .preserve => s

end Case

end Typeforge.Naming
