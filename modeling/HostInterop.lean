import HostInterop.Arity
import HostInterop.Cli.Invocation
import HostInterop.Cli.Outcome
import HostInterop.Cli.Usage
import HostInterop.Config
import HostInterop.Config.Toml
import HostInterop.Decimal.Layout
import HostInterop.Decimal.Shortest
import HostInterop.Embedding
import HostInterop.Error
import HostInterop.Foreign.Operation
import HostInterop.Foreign.Resolve
import HostInterop.Host.Class
import HostInterop.Host.ClassPath
import HostInterop.Host.Exception
import HostInterop.Host.Invocation
import HostInterop.Host.Standard
import HostInterop.Host.Type
import HostInterop.Main
import HostInterop.Registry.Basic
import HostInterop.Registry.Callable
import HostInterop.Registry.Package
import HostInterop.Registry.Table
import HostInterop.Script.Call
import HostInterop.Script.Error
import HostInterop.Script.Report
import HostInterop.Script.Runner
import HostInterop.Script.Token
import HostInterop.Session
import HostInterop.Text.Blank
import HostInterop.Text.GraphemeExtend
import HostInterop.Text.Lines
import HostInterop.Text.Printable
import HostInterop.Text.Quoted
import HostInterop.Text.Ranges
import HostInterop.Text.Similar
import HostInterop.Text.Upper
import HostInterop.Value.Basic
import HostInterop.Value.Coerce
import HostInterop.Value.Equality
import HostInterop.Value.Text
import HostInterop.Proofs.Upper
import HostInterop.Proofs.Cells
import HostInterop.Proofs.Gate
import HostInterop.Proofs.ForeignArity
import HostInterop.Proofs.Registration
import HostInterop.Proofs.Reachable
import HostInterop.Proofs.CallCount
import HostInterop.Proofs.HostFailure
import HostInterop.Proofs.ScriptRun
import HostInterop.Proofs.StaticReference
import HostInterop.Proofs.Lexemes
import HostInterop.Proofs.Tokenize
import HostInterop.Proofs.CallQuoting
import HostInterop.Proofs.LineGrammar
import HostInterop.Proofs.EntryPoints
import HostInterop.Proofs.Resolution
import HostInterop.Proofs.Lookup
import HostInterop.Proofs.PointDistance
import HostInterop.Proofs.RoundTrip
import HostInterop.Proofs.IntParameters
import HostInterop.Proofs.TableInstall
import HostInterop.Proofs.BindingReference
import HostInterop.Proofs.ForeignDispatch
