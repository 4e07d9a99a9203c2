import Typeforge.Text.Replace

/-!
# Paths

A path is a text. Its parts stand between slashes; an empty part and a single point lead nowhere.
-/

namespace Typeforge.Path

/-- What lies between the slashes of a path. -/
def segmentsFrom : List Char → List (List Char)
  | [] => [[]]
  | c :: cs =>
    if c = '/' then [] :: segmentsFrom cs
    else match segmentsFrom cs with
      | s :: ss => (c :: s) :: ss
      | [] => [[c]]

/-- The parts of a path that lead somewhere. -/
def parts (path : String) : List String :=
  (((segmentsFrom path.toList).map String.ofList).filter fun s => s != "" && s != ".")

def isAbsolute (path : String) : Bool := path.toList.head? == some '/'

/-- The path only leads to a directory. -/
def endsInDirectory (path : String) : Bool :=
  match (segmentsFrom path.toList).getLast? with
  | some last => last == [] || last == ['.']
  | none => false

/-- The last part of the path is the point that stands for the directory before it. -/
def endsInPoint (path : String) : Bool :=
  ((segmentsFrom path.toList).filter fun s => !s.isEmpty).getLast? == some ['.']

/-- A path below a directory. A path from the root stands for itself. -/
def join (directory path : String) : String :=
  if isAbsolute path || directory == "" then path
  else if directory.toList.getLast? == some '/' then directory ++ path
  else directory ++ "/" ++ path

end Typeforge.Path
