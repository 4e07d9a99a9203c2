import Typeforge.Text.Letters

/-!
# Words

A text falls into words at every character that is no letter and no number, where a small letter
or an ASCII digit meets a capital, and before the last capital of an acronym that a small letter
follows: `HTTPServer` is `HTTP` and `Server`.
-/

namespace Typeforge.Text

/-- Whether `c` begins a new word after `prev`, where `next` is the text after `c`. -/
def startsWord (prev c : Char) (next : List Char) : Bool :=
  ((isLowercase prev || prev.isDigit) && isUppercase c)
    || (isUppercase prev && isUppercase c && next.head?.any isLowercase)

/-- The words and the one that was begun, unless it is empty. -/
def finished (done : List (List Char)) (begun : List Char) : List (List Char) :=
  if begun.isEmpty then done else done ++ [begun]

/-- The words of a text, given the words before it, the word that was begun and the character before it. -/
def wordsAfter (done : List (List Char)) (begun : List Char) (prev : Option Char) : List Char → List (List Char)
  | [] => finished done begun
  | c :: rest =>
    if !isAlphanumeric c then wordsAfter (finished done begun) [] (some c) rest
    else if !begun.isEmpty && prev.any fun p => startsWord p c rest then
      wordsAfter (finished done begun) [c] (some c) rest
    else wordsAfter done (begun ++ [c]) (some c) rest

def words (s : List Char) : List (List Char) := wordsAfter [] [] none s

end Typeforge.Text
