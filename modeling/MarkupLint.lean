import MarkupLint.Adapter
import MarkupLint.CommandLine.Files
import MarkupLint.CommandLine.Lint
import MarkupLint.CommandLine.Options
import MarkupLint.CommandLine.Report
import MarkupLint.CommandLine.Run
import MarkupLint.Decimal.Binary64
import MarkupLint.Decimal.Shortest
import MarkupLint.Diagnostic
import MarkupLint.Engine.Basic
import MarkupLint.Engine.Config
import MarkupLint.Engine.External
import MarkupLint.Engine.Outcome
import MarkupLint.EngineOutput
import MarkupLint.FileTree
import MarkupLint.Finding
import MarkupLint.Json.Basic
import MarkupLint.Json.Decoding
import MarkupLint.Json.Fault
import MarkupLint.Json.Merge
import MarkupLint.Json.Number
import MarkupLint.Json.Printer
import MarkupLint.Json.Reader
import MarkupLint.LintError
import MarkupLint.Main
import MarkupLint.Notice
import MarkupLint.Path
import MarkupLint.Preferences.Observer
import MarkupLint.Preferences.Store
import MarkupLint.Process.Basic
import MarkupLint.Proofs.Adapter
import MarkupLint.Proofs.EngineOutput
import MarkupLint.Proofs.Finding
import MarkupLint.Proofs.Json.Decoding
import MarkupLint.Proofs.Json.Members
import MarkupLint.Proofs.Json.Merge
import MarkupLint.Proofs.Path
import MarkupLint.Proofs.Server.Documents
import MarkupLint.Proofs.Server.Runs
import MarkupLint.Proofs.Server.Session
import MarkupLint.Proofs.Server.Shown
import MarkupLint.Proofs.Server.StaleChecks
import MarkupLint.RcFile
import MarkupLint.Registry.Language
import MarkupLint.Registry.Provider
import MarkupLint.Resolver
import MarkupLint.Server.Document
import MarkupLint.Server.Framing
import MarkupLint.Server.Method
import MarkupLint.Server.Params
import MarkupLint.Server.Protocol
import MarkupLint.Server.Publication
import MarkupLint.Server.Session
import MarkupLint.Service
import MarkupLint.ServiceTable
import MarkupLint.Sharing
import MarkupLint.Shell.Arithmetic
import MarkupLint.Shell.Launch
import MarkupLint.Shell.Machine
import MarkupLint.Shell.Parser
import MarkupLint.Shell.Pattern
import MarkupLint.Shell.Syntax
import MarkupLint.Shell.Utility
import MarkupLint.SystemFault
import MarkupLint.Text.Blank
import MarkupLint.Text.Utf8
import MarkupLint.Uri.Basic
import MarkupLint.Uri.Host
import MarkupLint.Uri.Percent
import MarkupLint.Uri.Reader
import MarkupLint.World
import MarkupLint.Proofs.Server.Freshness
import MarkupLint.Proofs.Json.Layers
import MarkupLint.Proofs.Text.Utf8
import MarkupLint.Proofs.RcFile
import MarkupLint.Proofs.Scan
import MarkupLint.Proofs.Ruleset
import MarkupLint.Proofs.Service
import MarkupLint.Proofs.MalformedFiles
import MarkupLint.Proofs.Preferences.Store
import MarkupLint.Proofs.Preferences.Watching
import MarkupLint.Proofs.Server.Cleared
import MarkupLint.Proofs.Json.Reading
import MarkupLint.Proofs.WrittenFinding
import MarkupLint.Proofs.WrittenOutput
import MarkupLint.Proofs.CommandLine.Report
import MarkupLint.Proofs.CommandLine.Lint
import MarkupLint.Proofs.Json.Regrouping
import MarkupLint.Proofs.Separation
import MarkupLint.Proofs.Sharing
import MarkupLint.Proofs.SharedConfiguration
import MarkupLint.Proofs.EngineSwap
import MarkupLint.Proofs.Resolver
import MarkupLint.Proofs.Json.Idempotence
import MarkupLint.Proofs.Preferences.Settings
import MarkupLint.Proofs.Preferences.Documents
import MarkupLint.Proofs.OutputEntries
import MarkupLint.Proofs.Translation
import MarkupLint.Proofs.EngineRun
import MarkupLint.Proofs.Server.Settings
import MarkupLint.Proofs.Text.LetterCase
import MarkupLint.Proofs.Registry.Changes
import MarkupLint.Proofs.Registry.Language
import MarkupLint.Proofs.PathOrder
import MarkupLint.Proofs.CommandLine.Files
import MarkupLint.Proofs.Server.WatchedFiles
import MarkupLint.Proofs.Json.Demand
import MarkupLint.Proofs.WrittenDiagnostic
import MarkupLint.Proofs.CommandLine.Readback
