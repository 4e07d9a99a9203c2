import Typeforge.Toml.Text
import Typeforge.Toml.Tree

/-!
# Numbers in TOML

Digits may have single underscores between them. An integer fits 64 bits with a sign and may be written to
the base 16, 8 or 2. A float has a fraction or an exponent, or is one of the two words.
-/

namespace Typeforge.Toml

/-- The value of a digit to a base of at most 16. -/
def digit? (base : Nat) (c : Char) : Option Nat :=
  (hexDigit? c).bind fun d => if d < base then some d else none

/-- Every underscore stands between digits, where `afterDigit` says whether a digit came before. -/
def wellSpaced (afterDigit : Bool) : List Char → Bool
  | [] => afterDigit
  | '_' :: cs => afterDigit && wellSpaced false cs
  | _ :: cs => wellSpaced true cs

/-- Digits at the front, of which there has to be one, with single underscores between them. -/
def digits? (base : Nat) (s : Rest) : Option (List Nat × Rest) :=
  let run := s.takeWhile fun c => c == '_' || (digit? base c).isSome
  if wellSpaced false run then some (run.filterMap (digit? base), s.drop run.length) else none

def ofDigits (base : Nat) (digits : List Nat) : Nat := digits.foldl (fun n d => n * base + d) 0

/-- An integer, if it fits. -/
def integerOf? (n : Int) : Option Tree :=
  if -Int.pow 2 63 ≤ n && n < Int.pow 2 63 then some (.integer n) else none

/-- An integer to a base, after its mark. -/
def basedInteger? (base : Nat) (s : Rest) : Option (Tree × Rest) := do
  let (ds, s) ← digits? base s
  return (← integerOf? (ofDigits base ds), s)

/-- The digits before the point: a zero only on its own. -/
def wholeDigits? : Rest → Option (List Nat × Rest)
  | '0' :: s => some ([0], s)
  | s => digits? 10 s

/-- The digits after a point. -/
def fraction? : Rest → Option (Option (List Nat) × Rest)
  | '.' :: s => (digits? 10 s).map fun (ds, s) => (some ds, s)
  | s => some (none, s)

/-- The power of ten after its letter. -/
def exponent? : Rest → Option (Option Int × Rest)
  | [] => some (none, [])
  | c :: s =>
    if c == 'e' || c == 'E' then
      let (negative, s) := match s with
        | '-' :: t => (true, t)
        | '+' :: t => (false, t)
        | _ => (false, s)
      (digits? 10 s).map fun (ds, s) =>
        let n : Int := ofDigits 10 ds
        (some (if negative then -n else n), s)
    else some (none, c :: s)

/-- A float by its digits. One that is too great is refused, one that is too far below is unbounded. -/
def floatOf? (negative : Bool) (whole fraction : List Nat) (exponent : Int) : Option Tree :=
  match Binary64.ofDecimal negative (ofDigits 10 (whole ++ fraction)) (exponent - fraction.length) with
  | some x => some (.float x)
  | none => if negative then some .unbounded else none

/-- A number in decimal digits, after its sign. -/
def decimal? (negative : Bool) (s : Rest) : Option (Tree × Rest) := do
  let (whole, s) ← wholeDigits? s
  let (fraction, s) ← fraction? s
  let (exponent, s) ← exponent? s
  match fraction, exponent with
  | none, none =>
    let n : Int := ofDigits 10 whole
    return (← integerOf? (if negative then -n else n), s)
  | _, _ => return (← floatOf? negative whole (fraction.getD []) (exponent.getD 0), s)

/-- A number after its sign, or one of the words for floats that are none. -/
def signed? (negative : Bool) : Rest → Option (Tree × Rest)
  | 'i' :: 'n' :: 'f' :: s => some (.unbounded, s)
  | 'n' :: 'a' :: 'n' :: s => some (.unbounded, s)
  | s => decimal? negative s

def number? : Rest → Option (Tree × Rest)
  | '0' :: 'x' :: s => basedInteger? 16 s
  | '0' :: 'o' :: s => basedInteger? 8 s
  | '0' :: 'b' :: s => basedInteger? 2 s
  | '+' :: s => signed? false s
  | '-' :: s => signed? true s
  | s => signed? false s

end Typeforge.Toml
