/-!
# Runs of scalar values

A character class beyond ASCII is a list of runs. A run with stride two takes every second scalar:
in the alphabets that interleave capitals and small letters, each of the two is such a run.
-/

namespace Typeforge.Text.Unicode

/-- The scalars `first`, `first + stride`, … up to `last`. -/
structure Run where
  first : Nat
  last : Nat
  stride : Nat

/-- Whether the scalar lies on the run. -/
def Run.holds (r : Run) (n : Nat) : Bool :=
  r.first ≤ n && n ≤ r.last && (n - r.first) % r.stride == 0

/-- Whether some run of the class holds the character. -/
def inClass (runs : List Run) (c : Char) : Bool :=
  runs.any fun r => r.holds c.toNat

/-- A run of letters whose other case lies `offset` scalars away. -/
structure Shift where
  run : Run
  offset : Int

/-- The other case of `c`, by the first run that holds it. -/
def shifted? (shifts : List Shift) (c : Char) : Option Char :=
  (shifts.find? fun s => s.run.holds c.toNat).map fun s => Char.ofNat (Int.ofNat c.toNat + s.offset).toNat

end Typeforge.Text.Unicode
