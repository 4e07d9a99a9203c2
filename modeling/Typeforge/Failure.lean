import Typeforge.Text.Replace

/-!
# Failures

Why a file or directory cannot be used, and why a run stops. Each cause has one text.
-/

namespace Typeforge

/-- Why a file or directory cannot be read or written. -/
inductive FileError where
  | notFound
  | alreadyExists
  | notDirectory
  | isDirectory
  | nameTooLong
  /-- The name holds the character that ends names. -/
  | badName
  /-- The bytes are not UTF-8. -/
  | notText
  | other (text : String)
deriving DecidableEq

def FileError.message : FileError → String
  | .notFound => "No such file or directory (os error 2)"
  | .alreadyExists => "File exists (os error 17)"
  | .notDirectory => "Not a directory (os error 20)"
  | .isDirectory => "Is a directory (os error 21)"
  | .nameTooLong => "File name too long (os error 36)"
  | .badName => "file name contained an unexpected NUL byte"
  | .notText => "stream did not contain valid UTF-8"
  | .other text => text

/-- What is wrong with how a run is set up. -/
inductive Misconfiguration where
  /-- A plugin's options are none that it knows. -/
  | badOptions (plugin : String)
  /-- Two plugins write the same file; the later one is named. -/
  | sharedOutput (plugin output : String)
  /-- What a plugin has to say about its own setup. -/
  | reported (text : String)
deriving DecidableEq

def quoteName (name : String) : String := "\x60" ++ name ++ "\x60"

def Misconfiguration.message : Misconfiguration → String
  | .badOptions plugin => plugin ++ ":"
  | .sharedOutput plugin output =>
    "plugin " ++ quoteName plugin ++ " writes to " ++ quoteName output ++ ", which another plugin already uses"
  | .reported text => text

inductive Failure where
  /-- The plugins depend on each other in a circle, which begins and ends with the same one. -/
  | pluginCycle (plugins : List String)
  /-- A reference leads nowhere. -/
  | danglingReference (reference : String)
  | unknownPlugin (name : String) (available : List String)
  | duplicatePlugin (name : String)
  | misconfigured (what : Misconfiguration)
  | unwritable (path : String) (cause : FileError)
deriving DecidableEq

def Failure.message : Failure → String
  | .pluginCycle plugins => "circular plugin dependency: " ++ Text.joinWith " -> " plugins
  | .danglingReference reference => "reference " ++ reference ++ " does not resolve to any schema"
  | .unknownPlugin name available =>
    "unknown plugin " ++ quoteName name ++ " (available: " ++ Text.joinWith ", " available ++ ")"
  | .duplicatePlugin name => "plugin " ++ quoteName name ++ " is configured more than once"
  | .misconfigured what => "invalid configuration: " ++ what.message
  | .unwritable path cause => "failed to write " ++ path ++ ": " ++ cause.message

end Typeforge
