import Typeforge.CommandLine.Run

/-!
# The program

The command line on the disk of the machine.
-/

namespace Typeforge

/-- The cause of an error of the system. -/
def FileError.ofSystem : IO.Error → FileError
  | .noFileOrDirectory .. => .notFound
  | .alreadyExists .. => .alreadyExists
  | .inappropriateType _ code details =>
    if code = 20 then .notDirectory else if code = 21 then .isDirectory else .other details
  | .resourceExhausted _ code details => if code = 36 then .nameTooLong else .other details
  | e => .other (toString e)

/-- A step of the system with the cause of its error. -/
def guarded {α : Type} (step : IO α) : IO (Except FileError α) := do
  match ← step.toBaseIO with
  | .ok a => return .ok a
  | .error e => return .error (.ofSystem e)

def systemDisk : Disk IO where
  readText path := do
    match ← guarded (IO.FS.readBinFile path) with
    | .ok bytes =>
      match String.fromUTF8? bytes with
      | some text => return .ok text
      | none => return .error .notText
    | .error cause => return .error cause
  createDirectories path := if path.isEmpty then return .ok () else guarded (IO.FS.createDirAll path)
  writeText path text := guarded (IO.FS.writeFile path text)

end Typeforge

/-- Carries out the command in the arguments. -/
def main (args : List String) : IO UInt32 := do
  let outcome ← Typeforge.CommandLine.run Typeforge.systemDisk args
  (← IO.getStdout).putStr outcome.stdout
  (← IO.getStderr).putStr outcome.stderr
  return outcome.code.toUInt32
