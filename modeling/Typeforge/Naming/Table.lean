import Typeforge.Keyed
import Typeforge.Naming.Rule
import Typeforge.Schema.Pointer

/-!
# Name tables

Which name each reference has in one file. A name is given once and stays; a name that another reference
has already is given with a number after it, the least from 2 on that is free.
-/

namespace Typeforge.Naming

/-- The names of references, in the order in which they were given. -/
abbrev Table := Keyed String

/-- The name of a reference, and whether it was made just now. -/
structure Assigned where
  name : String
  created : Bool
deriving DecidableEq

namespace Table

/-- The names that are in use. -/
def taken (t : Table) : List String := t.map Prod.snd

def nameOf? (t : Table) (reference : String) : Option String := Keyed.get? t reference

def numbered (base : String) (k : Nat) : String := base ++ toString k

/-- The first of the numbers from `k` on whose name is free, where at most `tries` are in use. -/
def firstFree (used : List String) (base : String) : Nat → Nat → Nat
  | 0, k => k
  | tries + 1, k => if used.contains (numbered base k) then firstFree used base tries (k + 1) else k

/-- A name that is not in use: the base itself, or else the base with a number. -/
def fresh (used : List String) (base : String) : String :=
  if used.contains base then numbered base (firstFree used base used.length 2) else base

/-- The name of a reference, which is made in the style if there is none. -/
def assign (t : Table) (reference : String) (style : Style) : Assigned × Table :=
  match t.nameOf? reference with
  | some name => (⟨name, false⟩, t)
  | none =>
    let name := fresh t.taken (style.render (Schema.Pointer.baseName reference))
    (⟨name, true⟩, t ++ [(reference, name)])

/-- The name of a reference, if there is one or `create` allows to make it. -/
def request (t : Table) (reference : String) (style : Style) (create : Bool) : Option Assigned × Table :=
  match t.nameOf? reference, create with
  | none, false => (none, t)
  | _, _ =>
    let (assigned, t) := t.assign reference style
    (some assigned, t)

end Table

end Typeforge.Naming
