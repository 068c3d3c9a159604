import Unwinding.Basic
import Unwinding.Value
import Unwinding.Value.Printers
import Unwinding.Signal
import Unwinding.Fatal
import Unwinding.Formatter
import Unwinding.Ledger
import Unwinding.Ledger.Script
import Unwinding.Backtrace
import Unwinding.Context
import Unwinding.Handler
import Unwinding.Form
import Unwinding.Form.Eval
import Unwinding.Session
import Unwinding.Text.Alphanumeric
import Unwinding.Text.Blank
import Unwinding.Text.Escaped
import Unwinding.Text.Printable
import Unwinding.Text.Similarity
import Unwinding.Parser
import Unwinding.Peg
import Unwinding.Decimal.Shortest
import Unwinding.Decimal.Layout
import Unwinding.Decimal.Read
import Unwinding.Config.Basic
import Unwinding.Environment
import Unwinding.Cli.Invocation
import Unwinding.Config.Files
import Unwinding.Libraries
import Unwinding.Config.Load
import Unwinding.Config.Setting
import Unwinding.Config.Layer
import Unwinding.Config.Decode
import Unwinding.Config.FromToml
import Unwinding.Config.Sources
import Unwinding.Toml.Value
import Unwinding.Toml.Lexical
import Unwinding.Toml.Document
import Unwinding.Toml.Reader
import Unwinding.Toml.Quoting
import Unwinding.Toml.Writer
import Unwinding.Json.Value
import Unwinding.Json.Reader
import Unwinding.Yaml.Scanner
import Unwinding.Yaml.Events
import Unwinding.Yaml.Loader
import Unwinding.Ini.Reader
import Unwinding.Json5.Reader
import Unwinding.Ron.Reader
import Unwinding.Environment.DotEnv
import Unwinding.Cli.Grammar
import Unwinding.Cli.Misuse
import Unwinding.Cli.Arguments
import Unwinding.Cli.Probe
import Unwinding.Cli.Run
import Unwinding.Libraries.StandIn
import Unwinding.Main
import Unwinding.Proofs.Ledger
import Unwinding.Proofs.Context
import Unwinding.Proofs.Handler
import Unwinding.Proofs.Backtrace
import Unwinding.Proofs.Eval.Steps
import Unwinding.Proofs.Eval.Calls
import Unwinding.Proofs.Eval.Trail
import Unwinding.Proofs.Eval.Fatal
import Unwinding.Proofs.Eval.Simulation
import Unwinding.Proofs.Overflow
import Unwinding.Proofs.Eval.Independence
import Unwinding.Proofs.Eval.Exits
import Unwinding.Proofs.Eval.TagBody
import Unwinding.Proofs.Diagnostics
import Unwinding.Proofs.Probe
import Unwinding.Proofs.Parser
import Unwinding.Proofs.Toml.Quoting
import Unwinding.Proofs.Toml.Strings
import Unwinding.Proofs.Toml.Numbers
import Unwinding.Proofs.Toml.Document
import Unwinding.Proofs.Config.KeyByKey
import Unwinding.Proofs.Config.RoundTrip
import Unwinding.Proofs.Cli.ConfigCommand
