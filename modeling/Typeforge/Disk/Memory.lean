import Typeforge.Disk.Basic

/-!
# A disk in memory

A tree of directories with a working directory in it, for runs that leave the real file system alone.
A path is followed name by name: `..` leads to the directory above, and every name but the last has to be
that of a directory. Names and paths have a greatest size.
-/

namespace Typeforge.Memory

inductive Entry where
  /-- A file; it has no text when its bytes are not UTF-8. -/
  | file (text : Option String)
  | directory (children : List (String × Entry))
deriving Inhabited

/-- Where an entry is: the names from the root. -/
abbrev Location := List String

structure Tree where
  root : Entry
  /-- The working directory. -/
  here : Location

namespace Entry

def child? (name : String) : Entry → Option Entry
  | .file _ => none
  | .directory children => Keyed.get? children name

def at? : Entry → Location → Option Entry
  | e, [] => some e
  | e, name :: names =>
    match e.child? name with
    | some c => c.at? names
    | none => none

/-- Puts an entry at a location; directories on the way that are missing are made. -/
def put (e : Entry) (new : Entry) : Location → Entry
  | [] => new
  | name :: names =>
    match e with
    | .file text => .file text
    | .directory children =>
      .directory (Keyed.put children name (put ((Keyed.get? children name).getD (.directory [])) new names))

mutual

/-- The files in an entry, each by the names that lead to it. -/
def files (above : Location) : Entry → List (Location × Option String)
  | .file text => [(above, text)]
  | .directory children => filesOf above children

def filesOf (above : Location) : List (String × Entry) → List (Location × Option String)
  | [] => []
  | (name, e) :: es => files (above ++ [name]) e ++ filesOf above es

end

end Entry

/-- A place in the tree: what is there, and the directories on the way to it, each with the name that leads
on, the innermost first. -/
structure Place where
  entry : Entry
  way : List (String × Entry) := []

namespace Place

def maxNameSize : Nat := 255

/-- The names from the root. -/
def location (p : Place) : Location := (p.way.map Prod.fst).reverse

def step (p : Place) (name : String) : Except FileError Place :=
  match p.entry with
  | .file _ => .error .notDirectory
  | .directory children =>
    if name == ".." then
      match p.way with
      | [] => .ok p
      | (_, above) :: way => .ok ⟨above, way⟩
    else if maxNameSize < name.utf8ByteSize then .error .nameTooLong
    else match Keyed.get? children name with
      | some e => .ok ⟨e, (name, p.entry) :: p.way⟩
      | none => .error .notFound

/-- The place that a path leads to. -/
def follow (p : Place) (parts : List String) : Except FileError Place := parts.foldlM step p

/-- The directory and the name that a path leads to, whether or not there is something of that name. -/
def target (p : Place) (parts : List String) : Except FileError (Place × String) :=
  match parts.getLast? with
  | none => .error .alreadyExists
  | some name => do
    let above ← p.follow parts.dropLast
    match above.entry with
    | .directory _ => if maxNameSize < name.utf8ByteSize then .error .nameTooLong else .ok (above, name)
    | .file _ => .error .notDirectory

def checkDirectory (p : Place) : Except FileError Unit :=
  match p.entry with
  | .directory _ => .ok ()
  | .file _ => .error .notDirectory

end Place

namespace Tree

def maxPathSize : Nat := 4095

/-- Fails for a path that no system call takes. -/
def checkPath (path : String) : Except FileError Unit :=
  if path.toList.contains '\x00' then .error .badName
  else if maxPathSize < path.utf8ByteSize then .error .nameTooLong
  else .ok ()

/-- Where a path begins: at the root, or in the working directory. -/
def start (t : Tree) (absolute : Bool) : Except FileError Place :=
  Place.follow ⟨t.root, []⟩ (if absolute then [] else t.here)

def readText (t : Tree) (path : String) : Except FileError String := do
  checkPath path
  let place ← (← t.start (Path.isAbsolute path)).follow (Path.parts path)
  match place.entry with
  | .directory _ => .error .isDirectory
  | .file text =>
    if Path.endsInDirectory path then .error .notDirectory
    else match text with
      | some text => .ok text
      | none => .error .notText

/-- Fails unless a directory is where the parts of a path lead. -/
def checkDirectory (t : Tree) (absolute : Bool) (parts : List String) : Except FileError Unit := do
  (← (← t.start absolute).follow parts).checkDirectory

def createDirectory (t : Tree) (absolute : Bool) (parts : List String) : Except FileError Tree := do
  let (above, name) ← (← t.start absolute).target parts
  if name == ".." || (above.entry.child? name).isSome then .error .alreadyExists
  else .ok { t with root := t.root.put (.directory []) (above.location ++ [name]) }

/-- Makes a directory, or leaves the one that is there. -/
def ensureDirectory (t : Tree) (absolute : Bool) (parts : List String) : Except FileError Tree :=
  match t.createDirectory absolute parts with
  | .ok t => .ok t
  | .error e =>
    match t.checkDirectory absolute parts with
    | .ok () => .ok t
    | .error _ => .error e

/-- Makes a directory unless it is there. Where the directory above is missing, that one is made first; the
parts of the path come last one first. -/
def createAll (t : Tree) (absolute : Bool) : List String → Except FileError Tree
  | [] => .ok t
  | name :: above =>
    let parts := (name :: above).reverse
    match t.ensureDirectory absolute parts with
    | .error .notFound => do (← t.createAll absolute above).ensureDirectory absolute parts
    | result => result

/-- Makes the directories of a path. A point at its end has to find its directory, so only those above that
one are made. -/
def createDirectories (t : Tree) (path : String) : Except FileError Tree := do
  checkPath path
  let absolute := Path.isAbsolute path
  let parts := Path.parts path
  if Path.endsInPoint path then
    match t.checkDirectory absolute parts with
    | .ok () => return t
    | .error .notFound =>
      let t ← t.createAll absolute parts.dropLast.reverse
      t.checkDirectory absolute parts
      return t
    | .error e => throw e
  else t.createAll absolute parts.reverse

def writeText (t : Tree) (path text : String) : Except FileError Tree := do
  checkPath path
  let (above, name) ← (← t.start (Path.isAbsolute path)).target (Path.parts path)
  match above.entry.child? name with
  | some (.directory _) => .error .isDirectory
  | _ => .ok { t with root := t.root.put (.file (some text)) (above.location ++ [name]) }

/-- The files below the working directory, by their paths from there. -/
def files (t : Tree) : List (String × Option String) :=
  match t.root.at? t.here with
  | some e => (e.files []).map fun (place, text) => (Text.joinWith "/" place, text)
  | none => []

/-- The files that are new or have another text than before, sorted by their paths. -/
def changes (before after : Tree) : List (String × Option String) :=
  let old := before.files
  (after.files.filter fun (path, text) => Keyed.get? old path != some text).mergeSort
    fun a b => decide (a.1 ≤ b.1)

end Tree

/-- The tree after a step, and what the step says of it. -/
def update (step : Tree → Except FileError Tree) : StateM Tree (Except FileError Unit) := fun t =>
  match step t with
  | .ok t => (.ok (), t)
  | .error e => (.error e, t)

/-- The disk that a tree is. -/
def disk : Disk (StateM Tree) where
  readText path := fun t => (t.readText path, t)
  createDirectories path := update fun t => t.createDirectories path
  writeText path text := update fun t => t.writeText path text

end Typeforge.Memory
