import OriginGate.CommandLine.Reader
import OriginGate.Config.Listen
import OriginGate.Config.Load
import OriginGate.Config.Validate
import OriginGate.Program.Output
import OriginGate.Program.Variables
import OriginGate.Service.Router

/-!
# Running the program

`Program.run` reads the command line, loads the configuration and carries out the command. It is a
function of what surrounds the program: the variables, the environment files, the names that the
system knows, the addresses at which it refuses to listen and the files of the documentation that
come from outside. A run ends with an exit status or with a server that is up; `Server.stop` tells
what the server writes when it is told to end.
-/

namespace OriginGate

open Address CommandLine Log Text

structure Surroundings where
  environment : Environment
  files : EnvFiles
  /-- Why the system refuses to listen at an address, if it does. -/
  refusal? : Socket → Option String
  /-- The variables that are no texts. -/
  foreign : List Foreign := []
  lookUp : Resolver := Resolver.unaware
  assets : List Docs.File := []

/-- What the program has written so far, and why it fails if it does. -/
abbrev Session := ExceptT Failure (StateM (List Output))

def Session.write (o : Output) : Session Unit :=
  modify (· ++ [o])

def Session.writeLine (s : String) : Session Unit :=
  Session.write (.text (s ++ "\n"))

/-! ## Configuration -/

/-- The configuration with what the command line says, which prevails. -/
def Config.override (c : Config) (o : Options) : Config :=
  { c with
    host := o.host.getD c.host
    port := o.port.getD c.port
    logJson := c.logJson || o.jsonLogs }

/-- Loads the configuration of an invocation. -/
def Config.ofInvocation (o : Options) (s : Surroundings) : Except LoadFault Config :=
  (Config.load s.environment s.files).map (·.override o)

def LoadFault.failure : LoadFault → Failure
  | .file fault => .abort fault.message
  | .decode fault =>
    .reason "failed to load configuration" [(ServiceFault.decode fault).message, fault.message]

/-- The failure of a service that does not come up. -/
def ServiceFault.failure (f : ServiceFault) : Failure :=
  .reason f.message [f.reason]

/-! ## Logging -/

/-- Which records are written, and how. -/
structure Logger where
  filter : Filter
  style : Style

namespace Logger

/-- Whether colours are declined, by a variable or in the environment file. -/
def isColourless (s : Surroundings) : Bool :=
  match mergedEnvironment s.environment s.files with
  | .ok env => (env.get? "NO_COLOR").any (· ≠ "")
  | .error _ => false

def ofConfig (c : Config) (verbose : Bool) (s : Surroundings) : Except Failure Logger := do
  let filter ← (Filter.ofSetting c.logFilter verbose).mapError fun f => .abort f.message
  return {
    filter
    style := if c.logJson then .json else if isColourless s then .plain else .coloured }

/-- The records to be written for one that was made. -/
def admitted (l : Logger) (r : Record) : List Output :=
  if l.filter.enables r.target r.level then [.record r l.style] else []

def log (l : Logger) (r : Record) : Session Unit :=
  modify (· ++ l.admitted r)

end Logger

/-- The target of records about the run of the program. -/
def programTarget : String := "deepblocks_api"

/-- The target of records about metrics. -/
def metricsTarget : String := "deepblocks_api::metrics"

/-- The target of records about the end of the program. -/
def signalTarget : String := "deepblocks_api::utils"

/-! ## Commands -/

/-- A line that sets parts of a text apart. -/
def ruler (c : Char) : String :=
  String.ofList (List.replicate 70 c)

/-- The lines that sum up a configuration. -/
def Config.summary (c : Config) : List String :=
  [ruler '-', "Configuration Summary:",
    "  Listen: " ++ c.host ++ ":" ++ decimalString c.port.toNat,
    "  CORS Origins: " ++ ", ".intercalate c.allowedOrigins,
    "  CORS Max Age: " ++ decimalString c.maxAge.toNat ++ "s",
    match c.metricsPort with
    | some port => "  Metrics Port: " ++ decimalString port.toNat
    | none => "  Metrics: Disabled",
    "  Log Level: " ++ c.logFilter,
    ruler '=', "CONFIGURATION CHECK PASSED", ruler '=']

/-- Checks the configuration and sums it up. -/
def checkConfig (c : Config) : Session Unit := do
  [ruler '=', "DEEPBLOCKS API - CONFIGURATION CHECK", ruler '='].forM Session.writeLine
  Session.write (.text "Validating configuration... ")
  match c.validate with
  | .ok () => Session.writeLine "OK"
  | .error fault =>
    Session.writeLine "FAILED"
    Session.writeLine ("  Error: " ++ fault.message)
    throw (.reason "Configuration validation failed" [])
  c.summary.forM Session.writeLine

/-- Prints the description of the interface. -/
def printDescription : Session Unit :=
  Session.writeLine (String.ofList (Service.description {}).pretty)

structure Server where
  service : Service
  address : Socket
  logger : Logger

/-- What a server writes when it is told to end. -/
def Server.stop (s : Server) : List Output :=
  s.logger.admitted ⟨.info, signalTarget, "Shutdown signal received"⟩ ++
    s.logger.admitted ⟨.info, programTarget, "HTTP server stopped"⟩

def resolve (c : Config) (s : Surroundings) : Session Socket :=
  match c.listenAddress s.lookUp with
  | .ok address => return address
  | .error fault => throw (ServiceFault.io fault.message).failure

/-- Starts to show the metrics on a port. -/
def startMetrics (c : Config) (port : UInt16) (l : Logger) (s : Surroundings) :
    Session Unit := do
  let address := { (← resolve c s) with port }
  match s.refusal? address with
  | some reason =>
    let fault := ServiceFault.metrics ("failed to create HTTP listener: " ++ reason)
    l.log ⟨.error, programTarget, "Failed to start metrics exporter: " ++ fault.message⟩
    throw fault.failure
  | none =>
    let place := String.ofList address.render
    l.log ⟨.info, metricsTarget, "Prometheus exporter listening on " ++ place⟩

def buildService (c : Config) (assets : List Docs.File := []) : Session Service := do
  match Policy.ofConfig c with
  | .error fault => throw (.reason fault.message [])
  | .ok policy =>
    match Service.build {} policy assets with
    | .error fault => throw (.abort fault.message)
    | .ok service => return service

def serve (c : Config) (l : Logger) (s : Surroundings) : Session Server := do
  if let .error fault := c.validate then
    l.log ⟨.error, programTarget, "Invalid configuration: " ++ fault.message⟩
    throw (.reason ("Configuration validation failed: " ++ fault.message) [])
  let m : Metadata := {}
  l.log ⟨.info, programTarget, "Starting " ++ m.name ++ " v" ++ m.version⟩
  if let some port := c.metricsPort then
    startMetrics c port l s
  l.log ⟨.debug, metricsTarget, "Metrics initialized"⟩
  let service ← buildService c s.assets
  l.log ⟨.info, programTarget, "CORS allowed origins: " ++ ", ".intercalate c.allowedOrigins⟩
  let address ← resolve c s
  let place := String.ofList address.render
  if let some reason := s.refusal? address then
    l.log ⟨.error, programTarget, "Failed to bind " ++ place ++ ": " ++ reason⟩
    throw (.reason reason [])
  l.log ⟨.info, programTarget, "HTTP server listening on " ++ place⟩
  l.log ⟨.info, programTarget, "API docs available at http://" ++ place ++ m.docsPath⟩
  return { service, address, logger := l }

/-! ## Runs -/

inductive Ending where
  | exit (status : Nat)
  /-- A server is up. -/
  | serving (server : Server)

/-- What a run writes, and how it ends. -/
structure Run where
  written : List Output
  ending : Ending

def execute (i : Invocation) (s : Surroundings) : Session (Option Server) := do
  if let some f := foreignFault? s.foreign s.environment s.files then
    throw (.abort f.message)
  let c ← (Config.ofInvocation i.options s).mapError LoadFault.failure
  let l ← Logger.ofConfig c i.options.verbose s
  match i.command with
  | .checkConfig => checkConfig c; return none
  | .openapi => printDescription; return none
  | .serve => return some (← serve c l s)

namespace Program

/-- The run of the program when reading the command line stops it. -/
def stopped : Stop → Run
  | .help page => ⟨[.text page.text], .exit 0⟩
  | .version => ⟨[.text (programName ++ " " ++ ({} : Metadata).version ++ "\n")], .exit 0⟩
  | .fault page f => ⟨[.complaint (f.message page)], .exit 2⟩

def run (args : List String) (s : Surroundings) : Run :=
  match Invocation.read args with
  | .error stop => stopped stop
  | .ok i =>
    match (execute i s).run.run [] with
    | (.ok (some server), written) => ⟨written, .serving server⟩
    | (.ok none, written) => ⟨written, .exit 0⟩
    | (.error f, written) => ⟨written ++ [.complaint f.report], .exit f.status⟩

end Program

end OriginGate
