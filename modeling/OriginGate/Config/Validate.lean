import OriginGate.Cors.Policy
import OriginGate.Url.Origin

/-!
# Checking a configuration

`Config.validate` reports the first rule that a configuration breaks: the port, the port of the
metrics, the presence of origins, each origin, the methods and the headers. An origin must be
written exactly as browsers send it.
-/

namespace OriginGate

open Text

/-- Why an allowed origin is none. -/
inductive OriginFault where
  /-- It is no address at all. -/
  | unreadable (fault : Url.Fault)
  /-- It is no address of a web page. -/
  | unsupportedScheme (scheme : String)
  /-- Browsers send the origin in another form. -/
  | otherForm (canonical : String)
  deriving DecidableEq, Repr

def OriginFault.message : OriginFault → String
  | unreadable fault => fault.message
  | unsupportedScheme scheme => "unsupported scheme " ++ quote scheme
  | otherForm canonical => "expected origin form " ++ quote canonical

/-- Checks that a text is the origin of a web page as browsers send it. -/
def checkOrigin (text : String) : Except OriginFault Unit :=
  match Url.read text.toList with
  | .error fault => .error (.unreadable fault)
  | .ok url =>
    match url.origin? with
    | none => .error (.unsupportedScheme (String.ofList url.scheme))
    | some origin =>
      if origin.render = text.toList then .ok ()
      else .error (.otherForm (String.ofList origin.render))

def checkOrigins : List String → Except ConfigFault Unit
  | [] => .ok ()
  | s :: ss =>
    match checkOrigin s with
    | .error fault => .error (.invalidOrigin s fault.message)
    | .ok () => checkOrigins ss

def Config.validate (c : Config) : Except ConfigFault Unit := do
  if c.port = 0 then throw .invalidPort
  if c.metricsPort = some c.port then throw (.metricsPortCollision c.port)
  if c.allowedOrigins.isEmpty then throw .noOrigins
  checkOrigins c.allowedOrigins
  let _ ← Policy.ofConfig c

end OriginGate
