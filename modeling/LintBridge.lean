import LintBridge.Text.Blank
import LintBridge.Text.Upper
import LintBridge.Text.Ranges
import LintBridge.Text.Compose
import LintBridge.Text.Quote
import LintBridge.Text.Lines
import LintBridge.Text.Decimal
import LintBridge.Choice
import LintBridge.Finding
import LintBridge.Report.Layout
import LintBridge.Report.Tabbed
import LintBridge.Report.Colon
import LintBridge.Report.Read
import LintBridge.Json.Basic
import LintBridge.Json.Write
import LintBridge.Json.Read
import LintBridge.Fault
import LintBridge.Diagnostic.KnownErrors
import LintBridge.Diagnostic.Severity
import LintBridge.Web.Form
import LintBridge.Web.Punycode
import LintBridge.Web.Percent
import LintBridge.Web.Domain
import LintBridge.Web.Host
import LintBridge.Web.Url
import LintBridge.Lsp.Decode
import LintBridge.Lsp.Types
import LintBridge.Lsp.Capabilities
import LintBridge.Lsp.Params
import LintBridge.Lsp.Requests
import LintBridge.Lsp.Convert
import LintBridge.Lsp.Backend
import LintBridge.Lsp.Service
import LintBridge.Lsp.Script
import LintBridge.Lsp.Wire
import LintBridge.Settings.Basic
import LintBridge.Diagnostic.Docs
import LintBridge.Diagnostic.Record
import LintBridge.Settings.Json
import LintBridge.Diagnostic.Json
import LintBridge.Session
import LintBridge.Text.Utf8
import LintBridge.Number.Binary64
import LintBridge.Number.Shortest
import LintBridge.Config.Toml.Reader
import LintBridge.Config.Toml.Value
import LintBridge.Config.Toml.Scalar
import LintBridge.Config.Toml
import LintBridge.Config.Value
import LintBridge.Config.Load
import LintBridge.Host.Basic
import LintBridge.Host.Numeral
import LintBridge.Host.Time.Calendar
import LintBridge.Host.Time.Stamp
import LintBridge.Host.Time.Phrase
import LintBridge.Host.Regex.Syntax
import LintBridge.Host.Regex.Match
import LintBridge.Host.Printf.Conversion
import LintBridge.Host.Printf.Escape
import LintBridge.Host.Printf.Quote
import LintBridge.Host.Printf
import LintBridge.Host.Shell.Syntax
import LintBridge.Host.Shell.Parse
import LintBridge.Host.Shell.State
import LintBridge.Host.Shell.Pattern
import LintBridge.Host.Shell.Fields
import LintBridge.Host.Shell.Arith
import LintBridge.Host.Shell.Test
import LintBridge.Host.Shell.Glob
import LintBridge.Host.Program
import LintBridge.Host.Condition
import LintBridge.Host.Help
import LintBridge.Host.Tools.Grep
import LintBridge.Host.Tools.Translate
import LintBridge.Host.Tools.Expr
import LintBridge.Host.Tools.Sort
import LintBridge.Host.Tools.Listing
import LintBridge.Host.Tools.Identity
import LintBridge.Host.Tools.Lines
import LintBridge.Host.Tools.Dump
import LintBridge.Host.Tools
import LintBridge.Host.Shell.Builtins
import LintBridge.Host.Shell.Run
import LintBridge.Host.Launch
import LintBridge.Linter.Error
import LintBridge.Linter.Command
import LintBridge.Linter.Completion
import LintBridge.Linter.Check
import LintBridge.Cli.Similar
import LintBridge.Cli.Spec
import LintBridge.Cli.Parse
import LintBridge.Cli.Run
import LintBridge.Main
import LintBridge.Proofs.Text
import LintBridge.Proofs.Report
import LintBridge.Proofs.Tabbed
import LintBridge.Proofs.Colon
import LintBridge.Proofs.Records
import LintBridge.Proofs.Command
import LintBridge.Proofs.Session
import LintBridge.Proofs.Canonical
import LintBridge.Proofs.Configuration
import LintBridge.Proofs.Cache
import LintBridge.Proofs.Overlay
import LintBridge.Proofs.Order
import LintBridge.Proofs.LineNumber
import LintBridge.Proofs.Display
import LintBridge.Proofs.Documentation
import LintBridge.Proofs.Check
import LintBridge.Proofs.ByteOrder
