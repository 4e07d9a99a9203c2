import Typeforge.Toml.Moment
import Typeforge.Toml.Number

/-!
# Reading TOML

A document is a sequence of lines: a key with its value, a header that opens a table, a comment, or nothing.
Lines may end inside an array, but not inside an inline table.
-/

namespace Typeforge.Toml

/-- What remains after a comment, if there is one. -/
def skipComment : Rest → Rest
  | '#' :: s => s.dropWhile isPlain
  | s => s

/-- What remains after a line that is complete: blanks, a comment, and its end. -/
def endOfLine? (s : Rest) : Option Rest :=
  match skipComment (skipBlank s) with
  | [] => some []
  | s => newline? s

/-- What remains after blanks, comments and ends of lines. -/
def skipSpace : Nat → Rest → Rest
  | 0, s => s
  | fuel + 1, s =>
    let s := skipComment (skipBlank s)
    match newline? s with
    | some s => skipSpace fuel s
    | none => s

/-- One of the two words that are values. -/
def word? : Rest → Option (Tree × Rest)
  | 't' :: 'r' :: 'u' :: 'e' :: s => some (.boolean true, s)
  | 'f' :: 'a' :: 'l' :: 's' :: 'e' :: s => some (.boolean false, s)
  | _ => none

mutual

/-- A value in which at most `levels` arrays and tables nest. -/
def value? : Nat → Nat → Rest → Option (Tree × Rest)
  | 0, _, _ => none
  | fuel + 1, levels, s =>
    match s with
    | [] => none
    | '[' :: s => if levels = 0 then none else do
      let (items, s) ← items? fuel (levels - 1) (skipSpace s.length s)
      return (.array items, s)
    | '\x7b' :: s => if levels = 0 then none else
      match skipBlank s with
      | '\x7d' :: s => some (.table .inline [], s)
      | _ => do
        let (fields, s) ← fields? fuel (levels - 1) [] s
        return (.table .inline fields, s)
    | c :: t =>
      if c == '"' || c == '\'' then (text? s).map fun (text, s) => (.string text, s)
      else if c == 't' || c == 'f' then word? (c :: t)
      else if beginsMoment s then (moment? s).map fun (text, s) => (.moment text, s)
      else number? s

/-- The items of an array up to its bracket; a comma may come after the last one. -/
def items? : Nat → Nat → Rest → Option (List Tree × Rest)
  | 0, _, _ => none
  | fuel + 1, levels, s =>
    match s with
    | ']' :: s => some ([], s)
    | s => do
      let (item, s) ← value? fuel levels s
      match skipSpace s.length s with
      | ',' :: s => do
        let (items, s) ← items? fuel levels (skipSpace s.length s)
        return (item :: items, s)
      | ']' :: s => return ([item], s)
      | _ => none

/-- The fields of an inline table up to its brace, after those in `before`. -/
def fields? : Nat → Nat → Fields → Rest → Option (Fields × Rest)
  | 0, _, _, _ => none
  | fuel + 1, levels, before, s => do
    let (key, s) ← key? s
    match key.getLast?, s with
    | some name, '=' :: s => do
      let (value, s) ← value? fuel levels (skipBlank s)
      let fields ← Fields.insert name value key.dropLast before
      match skipBlank s with
      | ',' :: s => fields? fuel levels fields s
      | '\x7d' :: s => return (fields, s)
      | _ => none
    | _, _ => none

end

/-- A line that gives a key of the table `path` its value. -/
def keyLine? (path : List String) (root : Fields) (s : Rest) : Option (Fields × Rest) := do
  let (key, s) ← key? s
  match key.getLast?, s with
  | some name, '=' :: s => do
    let (value, s) ← value? (2 * s.length + 2) (maxLevels - 1) (skipBlank s)
    let root ← Fields.within (Fields.insert name value key.dropLast) path root
    return (root, ← endOfLine? s)
  | _, _ => none

/-- A header after its first bracket. The first result is the path of the table that it opens. -/
def header? (root : Fields) (s : Rest) : Option (List String × Fields × Rest) :=
  match s with
  | '[' :: s => do
    let (path, s) ← key? s
    match s with
    | ']' :: ']' :: s => return (path, ← Fields.openTable true path root, ← endOfLine? s)
    | _ => none
  | s => do
    let (path, s) ← key? s
    match s with
    | ']' :: s => return (path, ← Fields.openTable false path root, ← endOfLine? s)
    | _ => none

/-- The tables after all lines, where `path` is the table that is open. -/
def lines? : Nat → List String → Fields → Rest → Option Fields
  | 0, _, _, _ => none
  | fuel + 1, path, root, s =>
    match skipBlank s with
    | [] => some root
    | c :: t =>
      if c == '#' || c == '\n' || c == '\r' then do lines? fuel path root (← endOfLine? (c :: t))
      else if c == '[' then do
        let (path, root, s) ← header? root t
        lines? fuel path root s
      else do
        let (root, s) ← keyLine? path root (c :: t)
        lines? fuel path root s

/-- The fields of a document. A byte order mark in front does not count. -/
def parse? (text : String) : Option Fields :=
  let s := match text.toList with
    | '\ufeff' :: s => s
    | s => s
  lines? (s.length + 1) [] [] s

end Typeforge.Toml
