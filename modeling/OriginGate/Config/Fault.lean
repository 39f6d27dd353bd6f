import OriginGate.Text.Numeral
import OriginGate.Text.Quoted

/-!
# What can be wrong with a configuration

`ConfigFault` lists the rules that a configuration can break. `ServiceFault` lists why the service
does not come up at all. The wording of each is in one function.
-/

namespace OriginGate

open Text

/-- A rule that a configuration breaks. -/
inductive ConfigFault where
  | noOrigins
  | invalidOrigin (origin reason : String)
  | invalidMethod (text : String)
  /-- An allowed header name is none. -/
  | invalidHeader (text : String)
  | invalidPort
  /-- The metrics would be shown on the port of the listener. -/
  | metricsPortCollision (port : UInt16)
  deriving DecidableEq, Repr

namespace ConfigFault

def message : ConfigFault → String
  | noOrigins => "CORS_ALLOWED_ORIGINS must contain at least one origin"
  | invalidOrigin origin reason => "invalid CORS origin " ++ quote origin ++ ": " ++ reason
  | invalidMethod text => "invalid CORS method " ++ quote text
  | invalidHeader text => "invalid CORS header " ++ quote text
  | invalidPort => "PORT must be non-zero"
  | metricsPortCollision port =>
    "METRICS_PORT " ++ decimalString port.toNat ++ " collides with PORT"

/-- The name of the kind of fault. -/
def kind : ConfigFault → String
  | noOrigins => "NoOrigins"
  | invalidOrigin .. => "InvalidOrigin"
  | invalidMethod _ => "InvalidMethod"
  | invalidHeader _ => "InvalidHeader"
  | invalidPort => "InvalidPort"
  | metricsPortCollision _ => "MetricsPortCollision"

/-- The fault as a term: its kind with what it speaks of. -/
def term : ConfigFault → String
  | f@(invalidOrigin origin reason) =>
    f.kind ++ " \x7b origin: " ++ quote origin ++ ", reason: " ++ quote reason ++ " \x7d"
  | f@(invalidMethod text) | f@(invalidHeader text) => f.kind ++ "(" ++ quote text ++ ")"
  | f@(metricsPortCollision port) => f.kind ++ "(" ++ decimalString port.toNat ++ ")"
  | f => f.kind

end ConfigFault

/-- Why a configuration cannot be decoded from variables. -/
inductive DecodeFault where
  /-- A field has no value and no default. -/
  | missing (field : String)
  /-- Two variables give a value to one field. -/
  | duplicate (field : String)
  /-- The value of a variable is not of the type of its field. -/
  | illTyped (reason value name : String)
  /-- Any other reason, in words. -/
  | other (reason : String)
  deriving DecidableEq, Repr

def DecodeFault.message : DecodeFault → String
  | missing field => "missing value for field " ++ field
  | duplicate field => "duplicate field \x60" ++ field ++ "\x60"
  | illTyped reason value name =>
    reason ++ " while parsing value '" ++ value ++ "' provided by " ++ name
  | other reason => reason

/-- Why the service does not come up. -/
inductive ServiceFault where
  /-- The configuration could not be decoded. -/
  | decode (fault : DecodeFault)
  | invalidConfig (fault : ConfigFault)
  /-- The metrics could not be shown. -/
  | metrics (reason : String)
  /-- A document could not be written. -/
  | json (reason : String)
  | io (reason : String)
  deriving DecidableEq, Repr

namespace ServiceFault

/-- The name of the kind of fault. -/
def kind : ServiceFault → String
  | decode _ => "Config"
  | invalidConfig _ => "InvalidConfig"
  | metrics _ => "Metrics"
  | json _ => "Json"
  | io _ => "Io"

/-- The reason of the fault in words. -/
def reason : ServiceFault → String
  | decode fault => fault.message
  | invalidConfig fault => fault.message
  | metrics reason | json reason | io reason => reason

def message : ServiceFault → String
  | f@(decode _) => "configuration error: " ++ f.reason
  | f@(invalidConfig _) => "invalid configuration: " ++ f.reason
  | f@(metrics _) => "metrics exporter error: " ++ f.reason
  | f@(json _) => "json error: " ++ f.reason
  | f@(io _) => "io error: " ++ f.reason

end ServiceFault

end OriginGate
