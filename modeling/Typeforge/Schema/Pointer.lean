import Typeforge.Text.Replace

/-!
# Pointers to components

A component is referred to by a JSON pointer: the family it belongs to, then its name, in which `~` is
written `~0` and `/` is written `~1`. The base name of a pointer is its last segment.
-/

namespace Typeforge.Schema.Pointer

/-- A name as a segment of a pointer. -/
def escapeChars : List Char → List Char
  | [] => []
  | '~' :: cs => '~' :: '0' :: escapeChars cs
  | '/' :: cs => '~' :: '1' :: escapeChars cs
  | c :: cs => c :: escapeChars cs

/-- The name that a segment stands for. A tilde before anything but `0` and `1` stands for itself. -/
def unescapeChars : List Char → List Char
  | [] => []
  | '~' :: '0' :: cs => '~' :: unescapeChars cs
  | '~' :: '1' :: cs => '/' :: unescapeChars cs
  | c :: cs => c :: unescapeChars cs

def escape (name : String) : String := String.ofList (escapeChars name.toList)

def unescape (segment : String) : String := String.ofList (unescapeChars segment.toList)

/-- What follows the last slash. -/
def lastSegment (cs : List Char) : List Char := (cs.reverse.takeWhile (· != '/')).reverse

/-- The name to call a schema by that is referred to by `reference`. -/
def baseName (reference : String) : String :=
  String.ofList (unescapeChars (lastSegment reference.toList))

/-- The families of components. -/
inductive Family where
  | schemas
  | parameters
  | requestBodies
deriving DecidableEq

/-- What comes before the name in a pointer to a component. -/
def Family.root : Family → String
  | .schemas => "#/components/schemas/"
  | .parameters => "#/components/parameters/"
  | .requestBodies => "#/components/requestBodies/"

def toComponent (family : Family) (name : String) : String := family.root ++ escape name

/-- The name of a component in the family, if the pointer leads there. -/
def nameIn? (family : Family) (reference : String) : Option String :=
  (Text.after? family.root.toList reference.toList).map fun cs => String.ofList (unescapeChars cs)

/-- The family and the name of the component that a pointer leads to. -/
def target? (reference : String) : Option (Family × String) :=
  match nameIn? .schemas reference, nameIn? .parameters reference, nameIn? .requestBodies reference with
  | some name, _, _ => some (.schemas, name)
  | none, some name, _ => some (.parameters, name)
  | none, none, some name => some (.requestBodies, name)
  | none, none, none => none

end Typeforge.Schema.Pointer
