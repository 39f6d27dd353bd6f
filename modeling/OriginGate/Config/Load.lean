import OriginGate.Config.Environment
import OriginGate.EnvFile.Lines
import OriginGate.EnvFile.Value

/-!
# Loading a configuration

The configuration comes from the variables of the process and from the nearest environment file.
The file adds the variables that are not yet set, line by line; the first malformed line ends
it. A value that holds a null character cannot be stored as a variable.

* `applyLines_nil`: an empty file adds nothing.
-/

namespace OriginGate

open Text EnvFile

/-- Why reading an environment file stops the program. -/
inductive EnvFileFault where
  /-- A value cannot be stored as a variable. -/
  | unstorable (name value : String)
  deriving DecidableEq, Repr

def EnvFileFault.message : EnvFileFault → String
  | unstorable name value =>
    "failed to set environment variable \x60" ++ quoteStrictly name ++ "\x60 to \x60" ++
      quoteStrictly value ++ "\x60: file name contained an unexpected NUL byte"

/-- The value of a name in an environment file: of the variable if it is set, else of the latest
line that assigned it, else nothing. -/
def lookUpName (env earlier : Environment) (name : List Char) : List Char :=
  match env.get? (String.ofList name) with
  | some value => value.toList
  | none => ((earlier.get? (String.ofList name)).getD "").toList

/-- The variables after the lines of a file; `earlier` holds the assignments of the lines
before. -/
def applyLines (env earlier : Environment) : List (List Char) → Except EnvFileFault Environment
  | [] => .ok env
  | line :: lines =>
    match readLine (lookUpName env earlier) line with
    | .blank => applyLines env earlier lines
    | .malformed => .ok env
    | .assignment name value =>
      let earlier' := earlier.set name value
      match env.get? name with
      | some _ => applyLines env earlier' lines
      | none =>
        if '\x00' ∈ value.toList then .error (.unstorable name value)
        else applyLines (env.set name value) earlier' lines

@[simp] theorem applyLines_nil (env earlier : Environment) :
    applyLines env earlier [] = .ok env := rfl

/-- The variables after an environment file. -/
def applyFile (env : Environment) (content : List UInt8) : Except EnvFileFault Environment :=
  applyLines env [] (logicalLines content)

/-- The environment files that may be read: that of the working directory and that of the nearest
directory above it that has one. -/
structure EnvFiles where
  own : Option (List UInt8)
  above : Option (List UInt8)

/-- The file that is read. -/
def EnvFiles.nearest? (files : EnvFiles) : Option (List UInt8) :=
  files.own.or files.above

/-- Why no configuration could be loaded. -/
inductive LoadFault where
  | file (fault : EnvFileFault)
  | decode (fault : DecodeFault)
  deriving DecidableEq, Repr

/-- The variables of the process with those that the nearest file adds. -/
def mergedEnvironment (env : Environment) (files : EnvFiles) :
    Except EnvFileFault Environment :=
  match files.nearest? with
  | some content => applyFile env content
  | none => .ok env

/-- Loads the configuration from the variables of the process and the nearest file. -/
def Config.load (env : Environment) (files : EnvFiles) : Except LoadFault Config := do
  let merged ← (mergedEnvironment env files).mapError .file
  (Config.decode merged).mapError .decode

end OriginGate
