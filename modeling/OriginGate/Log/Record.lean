import OriginGate.Json.Basic
import OriginGate.Log.Filter

/-!
# Log records

A record has a level, a target and a message. It is written on a line of its own, after the time:
plain, with colours for terminals, or as a JSON object.
-/

namespace OriginGate.Log

structure Record where
  level : Level
  target : String
  message : String
  deriving DecidableEq, Repr

inductive Style where
  | plain
  | coloured
  | json
  deriving DecidableEq, Repr

namespace Level

/-- The number of the colour of a level. -/
def colour : Level → String
  | error => "31"
  | warn => "33"
  | info => "32"
  | debug => "34"
  | trace => "35"

/-- The name of a level, filled up with blanks on the left to five characters. -/
def column (l : Level) : String :=
  if l.title.length < 5 then " " ++ l.title else l.title

end Level

/-- A text in a colour or a weight. -/
def painted (code text : String) : String :=
  "\x1b[" ++ code ++ "m" ++ text ++ "\x1b[0m"

namespace Record

/-- The JSON object of a record. -/
def object (r : Record) (time : String) : Json.Value :=
  .object [
    ("timestamp", .string time),
    ("level", .string r.level.title),
    ("fields", .object [("message", .string r.message)]),
    ("target", .string r.target)]

/-- The line of a record that was made at a time. -/
def line (r : Record) (style : Style) (time : String) : String :=
  match style with
  | .plain =>
    time ++ " " ++ r.level.column ++ " " ++ r.target ++ ": " ++ r.message ++ "\n"
  | .coloured =>
    painted "2" time ++ " " ++ painted r.level.colour r.level.column ++ " " ++
      painted "2" r.target ++ painted "2" ":" ++ " " ++ r.message ++ "\n"
  | .json => String.ofList (r.object time).compact ++ "\n"

end Record

end OriginGate.Log
