import OriginGate.Service.Metadata

/-!
# The grammar of the command line

The program has options and commands; `help` shows what there is. All options but `--version` may
stand before and after a command.

* `Command.ofName?_name`: every command is found by its name.
-/

namespace OriginGate.CommandLine

def programName : String := "deepblocks-api"

/-! ## Commands -/

inductive Command where
  | serve
  | checkConfig
  | openapi
  deriving DecidableEq, Repr

namespace Command

def all : List Command := [serve, checkConfig, openapi]

def name : Command → String
  | serve => "serve"
  | checkConfig => "check-config"
  | openapi => "openapi"

def ofName? (s : String) : Option Command :=
  all.find? (·.name = s)

theorem ofName?_name (c : Command) : ofName? c.name = some c := by
  cases c <;> decide

/-- What a command does, in words. -/
def summary : Command → String
  | serve => "Run the HTTP server (default)"
  | checkConfig => "Check configuration validity"
  | openapi => "Print the OpenAPI document"

end Command

/-- The name of the command that shows help. -/
def helpName : String := "help"

/-- What the command that shows help does, in words. -/
def helpSummary : String := "Print this message or the help of the given subcommand(s)"

/-! ## Options -/

/-- An option of the command line. -/
inductive Parameter where
  | verbose
  | jsonLogs
  | host
  | port
  | help
  | version
  deriving DecidableEq, Repr

namespace Parameter

/-- The long name, without the dashes. -/
def long : Parameter → String
  | verbose => "verbose"
  | jsonLogs => "json-logs"
  | host => "host"
  | port => "port"
  | help => "help"
  | version => "version"

/-- The letter, if there is one. -/
def letter? : Parameter → Option Char
  | verbose => some 'v'
  | port => some 'p'
  | help => some 'h'
  | version => some 'V'
  | jsonLogs | host => none

/-- What stands for the value of the option, if it has one. -/
def placeholder? : Parameter → Option String
  | host => some "HOST"
  | port => some "PORT"
  | _ => none

/-- What the option does, in words. -/
def summary : Parameter → String
  | verbose => "Enable verbose logging"
  | jsonLogs => "Emit logs as JSON lines"
  | host => "Address to bind (overrides HOST)"
  | port => "HTTP server port (overrides PORT)"
  | help => "Print help"
  | version => "Print version"

/-- Whether the option has a value. -/
def takesValue (p : Parameter) : Bool :=
  p.placeholder?.isSome

def dashed (p : Parameter) : String :=
  "--" ++ p.long

/-- The option as it is written in messages. -/
def text (p : Parameter) : String :=
  match p.placeholder? with
  | some v => p.dashed ++ " <" ++ v ++ ">"
  | none => p.dashed

/-- The option as it is written in lists, with its letter. -/
def entry (p : Parameter) : String :=
  match p.letter? with
  | some c => "-" ++ c.toString ++ ", " ++ p.text
  | none => "    " ++ p.text

end Parameter

/-! ## Pages of help -/

/-- A page of help: that of the program, of a command or of the command that shows help. -/
inductive Page where
  | program
  | command (c : Command)
  | help
  deriving DecidableEq, Repr

/-- Two columns of words, the second one aligned. -/
def columns (rows : List (String × String)) : String :=
  let width := (rows.map (·.1.length)).foldl max 0
  String.join <| rows.map fun (a, b) =>
    "  " ++ a ++ String.ofList (List.replicate (width - a.length + 2) ' ') ++ b ++ "\n"

namespace Page

def parameters : Page → List Parameter
  | program => [.verbose, .jsonLogs, .host, .port, .help, .version]
  | command _ => [.verbose, .jsonLogs, .host, .port, .help]
  | help => []

/-- The words that call for what a page speaks of. -/
def words : Page → String
  | program => programName
  | command c => programName ++ " " ++ c.name
  | help => programName ++ " " ++ helpName

/-- How to call what a page speaks of. -/
def usage (p : Page) : String :=
  p.words ++ match p with
    | program => " [OPTIONS] [COMMAND]"
    | command _ => " [OPTIONS]"
    | help => " [COMMAND]..."

/-- What a page speaks of, in words. -/
def summary : Page → String
  | program => ({} : Metadata).description
  | command c => c.summary
  | help => helpSummary

/-- The sections of a page that list what may be given. -/
def sections : Page → List (String × List (String × String))
  | p@program =>
    [("Commands", Command.all.map (fun c => (c.name, c.summary)) ++ [(helpName, helpSummary)]),
      ("Options", p.parameters.map fun o => (o.entry, o.summary))]
  | p@(command _) => [("Options", p.parameters.map fun o => (o.entry, o.summary))]
  | help => [("Arguments", [("[COMMAND]...", "Print help for the subcommand(s)")])]

def text (p : Page) : String :=
  p.summary ++ "\n\nUsage: " ++ p.usage ++ "\n" ++
    String.join (p.sections.map fun (title, rows) => "\n" ++ title ++ ":\n" ++ columns rows)

end Page

end OriginGate.CommandLine
