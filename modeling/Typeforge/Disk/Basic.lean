import Typeforge.Disk.Path
import Typeforge.Failure
import Typeforge.Output.File

/-!
# Disks

What a run needs of a file system, and how the files of a run are written to it.
-/

namespace Typeforge

/-- A file system, used by steps in `m`. -/
structure Disk (m : Type → Type) where
  readText : String → m (Except FileError String)
  /-- Makes a directory, with the directories on the way to it. One that is there already is none to
  make. -/
  createDirectories : String → m (Except FileError Unit)
  writeText : String → String → m (Except FileError Unit)

namespace Disk

variable {m : Type → Type} [Monad m]

/-- Writes files below a directory that is there, and gives their paths. The first failure ends it. -/
def writeBelow (disk : Disk m) (directory : String) : List File → m (Except Failure (List String))
  | [] => return .ok []
  | f :: fs => do
    let path := Path.join directory f.path
    match ← disk.writeText path f.text with
    | .error cause => return .error (.unwritable path cause)
    | .ok () => return (← disk.writeBelow directory fs).map (path :: ·)

/-- Writes files below a directory, which is made if need be, and gives their paths. -/
def writeFiles (disk : Disk m) (directory : String) (files : List File) : m (Except Failure (List String)) := do
  match ← disk.createDirectories directory with
  | .error cause => return .error (.unwritable directory cause)
  | .ok () => disk.writeBelow directory files

end Disk

end Typeforge
