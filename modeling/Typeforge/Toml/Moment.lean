import Typeforge.Toml.Text

/-!
# Dates and times in TOML

A date, a time, or both with a letter or a blank between them and perhaps an offset at the end. The written
form is the one with the letter `T`, without zeros at the end of a fraction of a second, of which nine digits
count.
-/

namespace Typeforge.Toml

/-- A number of `count` decimal digits between two bounds, and the digits. -/
def field? (count least greatest : Nat) (s : Rest) : Option (Nat × List Char × Rest) :=
  let ds := s.take count
  let n := ds.foldl (fun n c => n * 10 + (c.toNat - '0'.toNat)) 0
  if ds.length = count && ds.all Char.isDigit && least ≤ n && n ≤ greatest then some (n, ds, s.drop count)
  else none

/-- What follows a character that has to be there. -/
def after? (c : Char) : Rest → Option Rest
  | [] => none
  | d :: s => if c = d then some s else none

def isLeapYear (year : Nat) : Bool := year % 4 == 0 && (year % 100 != 0 || year % 400 == 0)

def daysIn (year month : Nat) : Nat :=
  if month == 2 then (if isLeapYear year then 29 else 28)
  else if [4, 6, 9, 11].contains month then 30
  else 31

def date? (s : Rest) : Option (List Char × Rest) := do
  let (year, y, s) ← field? 4 0 9999 s
  let (month, m, s) ← field? 2 1 12 (← after? '-' s)
  let (_, d, s) ← field? 2 1 (daysIn year month) (← after? '-' s)
  return (y ++ '-' :: m ++ '-' :: d, s)

/-- The fraction of a second with its point, without zeros at its end. -/
def secondFraction : Rest → List Char × Rest
  | '.' :: s =>
    let digits := s.takeWhile Char.isDigit
    let kept := ((digits.take 9).reverse.dropWhile (· == '0')).reverse
    if digits.isEmpty then ([], '.' :: s)
    else (if kept.isEmpty then [] else '.' :: kept, s.dropWhile Char.isDigit)
  | s => ([], s)

/-- A time of day; a minute may have a leap second. -/
def time? (s : Rest) : Option (List Char × Rest) := do
  let (_, hour, s) ← field? 2 0 23 s
  let (_, minute, s) ← field? 2 0 59 (← after? ':' s)
  let (_, second, s) ← field? 2 0 60 (← after? ':' s)
  let (fraction, s) := secondFraction s
  return (hour ++ ':' :: minute ++ ':' :: second ++ fraction, s)

def twoDigits (n : Nat) : List Char := [Nat.digitChar (n / 10), Nat.digitChar (n % 10)]

/-- An offset of so many minutes; none is written as forward. -/
def offsetText (back : Bool) (minutes : Nat) : List Char :=
  (if back && minutes != 0 then '-' else '+') :: twoDigits (minutes / 60) ++ ':' :: twoDigits (minutes % 60)

/-- An offset of less than a day, which may be absent. -/
def offset? : Rest → Option (List Char × Rest)
  | [] => some ([], [])
  | c :: s =>
    if c == 'Z' || c == 'z' then some (['Z'], s)
    else if c == '+' || c == '-' then do
      let (hours, _, s) ← field? 2 0 23 s
      let (minutes, _, s) ← field? 2 0 59 (← after? ':' s)
      return (offsetText (c == '-') (hours * 60 + minutes), s)
    else some ([], c :: s)

def beginsTime (s : Rest) : Bool :=
  match field? 2 0 23 s with
  | some (_, _, ':' :: _) => true
  | _ => false

def beginsDate (s : Rest) : Bool :=
  match field? 4 0 9999 s with
  | some (_, _, '-' :: _) => true
  | _ => false

def beginsMoment (s : Rest) : Bool := beginsDate s || beginsTime s

/-- Whether a character can stand between a date and a time. -/
def joinsTime (c : Char) : Bool := c == 'T' || c == 't' || c == ' '

/-- A date, a date and a time, or a time. -/
def moment? (s : Rest) : Option (String × Rest) := do
  if beginsDate s then
    let (date, s) ← date? s
    match s with
    | c :: t =>
      if joinsTime c && beginsTime t then
        let (time, s) ← time? t
        let (offset, s) ← offset? s
        return (String.ofList (date ++ 'T' :: time ++ offset), s)
      else return (String.ofList date, s)
    | [] => return (String.ofList date, [])
  else
    let (time, s) ← time? s
    return (String.ofList time, s)

/-- The date or time that is the whole of a text, in its written form. -/
def momentOf? (text : String) : Option String :=
  match moment? text.toList with
  | some (moment, []) => some moment
  | _ => none

end Typeforge.Toml
