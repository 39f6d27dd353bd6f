import OriginGate.Program.Run
import Std.Async.DNS
import Std.Time.Format

/-!
# The program

Reads what surrounds the program, runs it and writes what the run wrote. A server that is up lasts
until the standard input ends.
-/

namespace OriginGate.Main

open Address CommandLine Text

/-- The content of the environment file of a directory, if it can be read. -/
def readEnvFile (directory : String) : IO (Option (List UInt8)) :=
  try
    return some (← IO.FS.readBinFile (directory ++ "/.env")).toList
  catch _ => return none

/-- The content of the nearest environment file among those of the directories with these names,
innermost first. -/
def nearestEnvFile : List (List Char) → IO (Option (List UInt8))
  | [] => readEnvFile ""
  | name :: names => do
    let path := String.ofList (join ['/'] (name :: names).reverse)
    match ← readEnvFile ("/" ++ path) with
    | some content => return some content
    | none => nearestEnvFile names

def surroundings : IO Surroundings := do
  let vs := Variables.read (← IO.FS.readBinFile "/proc/self/environ").toList
  let names := ((split '/' (← IO.currentDir).toString.toList).filter (· ≠ [])).reverse
  return {
    environment := vs.environment
    files := { own := ← readEnvFile ".", above := ← nearestEnvFile (names.drop 1) }
    refusal? := fun _ => none
    foreign := vs.foreign }

/-- The address as the system gives it. -/
def ipOf : Std.Net.IPAddr → Option Ip
  | .v4 address =>
    match address.octets.toList with
    | [a, b, c, d] => some (.v4 ⟨a, b, c, d⟩)
    | _ => none
  | .v6 address =>
    if h : address.segments.toList.length = 8 then some (.v6 ⟨address.segments.toList, h⟩)
    else none

/-- What the system knows of a host. -/
def lookUp (host : String) : IO Resolver := do
  try
    let found ← (Std.Async.DNS.getAddrInfo host "").block
    let addresses := found.toList.filterMap ipOf
    return fun _ => .ok addresses
  catch _ => return Resolver.unaware

/-- The surroundings with what the system knows of the host of the configuration, if the host of
an invocation has a name. -/
def withHost (args : List String) (s : Surroundings) : IO Surroundings := do
  match Invocation.read args with
  | .error _ => return s
  | .ok i =>
    match Config.ofInvocation i.options s with
    | .error _ => return s
    | .ok c =>
      if (Ip.ofText? c.host.toList).isSome then return s
      else return { s with lookUp := ← lookUp c.host }

/-- The present time as it stands in log records. -/
def now : IO String := do
  let time ← Std.Time.Timestamp.now
  return (Std.Time.DateTime.ofTimestamp time Std.Time.TimeZone.ZoneRules.UTC).format
    "uuuu-MM-dd'T'HH:mm:ss.SSSSSS'Z'"

/-- Writes a piece of what the program writes. -/
def emit (o : Output) : IO Unit := do
  (← IO.getStdout).putStr (o.shown (← now))
  (← IO.getStderr).putStr o.complained

/-- Waits until the standard input ends. -/
partial def awaitEnd (input : IO.FS.Stream) : IO Unit := do
  unless (← input.getLine).isEmpty do awaitEnd input

/-- Runs the program and gives its exit status. -/
def runProgram (args : List String) : IO UInt32 := do
  let run := Program.run args (← withHost args (← surroundings))
  run.written.forM emit
  match run.ending with
  | .exit status => return status.toUInt32
  | .serving server =>
    awaitEnd (← IO.getStdin)
    server.stop.forM emit
    return 0

end OriginGate.Main

def main (args : List String) : IO UInt32 :=
  OriginGate.Main.runProgram args
