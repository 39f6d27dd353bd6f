import OriginGate.Proofs.Service.Preflight
import OriginGate.Proofs.Service.CrossOrigin
import OriginGate.Proofs.Program.Startup
import OriginGate.Proofs.Service.Answers
import OriginGate.Proofs.Cors.SameOrigin
import OriginGate.Proofs.Cors.Policy
import OriginGate.Proofs.Config.Validate
import OriginGate.Main
import OriginGate.Program.Run
import OriginGate.CommandLine.Reader
import OriginGate.Log.Record
import OriginGate.Log.Directive
import OriginGate.Log.Pattern
import OriginGate.Log.Level
import OriginGate.Number.Literal
import OriginGate.Number.Shortest
import OriginGate.Text.Utf8
import OriginGate.Text.Alphanumeric
import OriginGate.Text.Quoted
import OriginGate.Text.Numeral
import OriginGate.Text.Blank
import OriginGate.Url.Origin
import OriginGate.Address.Socket
import OriginGate.Http.Token
import OriginGate.Http.Message
import OriginGate.Config.Validate
import OriginGate.Config.Listen
import OriginGate.Cors.Gate
import OriginGate.Service.Description
import OriginGate.Docs.Files
import OriginGate.Metrics.Exposition
import OriginGate.Service.Pattern
import OriginGate.Service.Router
import OriginGate.Config.Load
import OriginGate.Proofs.Service.Transparency
import OriginGate.Proofs.Config.OriginForm
import OriginGate.Proofs.Service.Caching
import OriginGate.Proofs.EnvFile.Assignments
import OriginGate.Proofs.Config.Decoding
import OriginGate.Proofs.CommandLine.Choices
import OriginGate.Proofs.Program.Precedence
import OriginGate.Proofs.Metrics.Series
import OriginGate.Proofs.Service.Routing
import OriginGate.Proofs.Service.Traffic
import OriginGate.Proofs.Service.Advertising
import OriginGate.Proofs.EnvFile.Writing
import OriginGate.Proofs.Config.Writing
import OriginGate.Proofs.Domain.Plain
import OriginGate.Proofs.Config.SuggestedForm
import OriginGate.Proofs.Json.Reader
import OriginGate.Proofs.Service.Documents
import OriginGate.Proofs.Json.Path
import OriginGate.Proofs.Service.Description
import OriginGate.Proofs.Service.Promises
import OriginGate.Proofs.Service.NotFound
import OriginGate.Proofs.Config.Outcome
import OriginGate.Proofs.EnvFile.Prefix
import OriginGate.Proofs.Http.Reference
import OriginGate.Proofs.Config.Loading
import OriginGate.Proofs.Config.Padding
import OriginGate.Proofs.Config.FirstFault
import OriginGate.Proofs.Text.Quoted
import OriginGate.Proofs.Config.Messages
import OriginGate.Proofs.Service.Mounting
import OriginGate.Proofs.Service.Links
import OriginGate.Proofs.Service.DocsLink
import OriginGate.Proofs.Config.Listen
import OriginGate.Proofs.Program.Variables
import OriginGate.Proofs.Cors.Names
