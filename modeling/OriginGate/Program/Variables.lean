import OriginGate.Config.Load
import OriginGate.Text.Quoted

/-!
# The variables of the process

The system gives the variables of the process as bytes. Those whose names and values are texts make
the environment. The others are invisible to the environment file, which may set them; any that is
left ends the program when the configuration is decoded, once all that stands before it was taken.
-/

namespace OriginGate

open Text

/-- A variable whose name or value is no text. -/
structure Foreign where
  /-- How many variables stand before it that are texts. -/
  earlier : Nat
  name : List UInt8
  value : List UInt8

namespace Foreign

/-- Why the program breaks off at the variable. -/
def message (f : Foreign) : String :=
  let part := if (Utf8.decode? f.name).isNone then f.name else f.value
  "called \x60Result::unwrap()\x60 on an \x60Err\x60 value: " ++ quoteBytes part

/-- Whether there is a text in place of the variable by now. -/
def isReplaced (f : Foreign) (env : Environment) : Bool :=
  (Utf8.decode? f.name).any fun name => (env.get? (String.ofList name)).isSome

end Foreign

/-- The variables of the process. -/
structure Variables where
  environment : Environment := []
  foreign : List Foreign := []

namespace Variables

/-- The name and the value of an entry: the equals sign between them is not the first byte, and what
has none is no variable. -/
def readEntry? : List UInt8 → Option (List UInt8 × List UInt8)
  | [] => none
  | b :: bs =>
    match bs.dropWhile (· ≠ 0x3D) with
    | [] => none
    | _ :: value => some (b :: bs.takeWhile (· ≠ 0x3D), value)

/-- The variables with one more. -/
def add (vs : Variables) (name value : List UInt8) : Variables :=
  match Utf8.decode? name, Utf8.decode? value with
  | some n, some v =>
    { vs with
      environment := vs.environment.set (String.ofList n) (String.ofList v) }
  | _, _ =>
    { vs with
      foreign := vs.foreign ++ [⟨vs.environment.length, name, value⟩] }

/-- The variables in a block of entries that end with null bytes. -/
def read (block : List UInt8) : Variables :=
  (block.splitBy fun b _ => b ≠ 0).foldl (fun vs entry =>
    match readEntry? (entry.filter (· ≠ 0)) with
    | some (name, value) => vs.add name value
    | none => vs) {}

end Variables

/-- The variable that is no text at which loading a configuration breaks off, if there is one. A
fault of the file comes first, and so does one of the variables before. -/
def foreignFault? (foreign : List Foreign) (env : Environment) (files : EnvFiles) :
    Option Foreign :=
  match mergedEnvironment env files with
  | .error _ => none
  | .ok merged =>
    (foreign.find? (! ·.isReplaced merged)).filter fun f =>
      (Config.decode (merged.take f.earlier)).isOk

end OriginGate
