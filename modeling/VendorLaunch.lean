import VendorLaunch.Catalog
import VendorLaunch.Catalog.File
import VendorLaunch.Catalog.Packaged
import VendorLaunch.Catalog.Resolution
import VendorLaunch.ChildRun
import VendorLaunch.CommandLine.Arguments
import VendorLaunch.CommandLine.Command
import VendorLaunch.CommandLine.Help
import VendorLaunch.CommandLine.UsageError
import VendorLaunch.Data
import VendorLaunch.Environment
import VendorLaunch.Exit
import VendorLaunch.Failure
import VendorLaunch.Fault
import VendorLaunch.FileTree
import VendorLaunch.Json
import VendorLaunch.Launch
import VendorLaunch.Log.Level
import VendorLaunch.Log.Moment
import VendorLaunch.Log.Setup
import VendorLaunch.Log.Template
import VendorLaunch.Logged
import VendorLaunch.Main
import VendorLaunch.Number.Binary64
import VendorLaunch.Number.Checked
import VendorLaunch.Number.Literal
import VendorLaunch.Path
import VendorLaunch.Platform
import VendorLaunch.Platform.Detection
import VendorLaunch.Program.Choices
import VendorLaunch.Program.Interface
import VendorLaunch.Program.Launcher
import VendorLaunch.Program.Operator
import VendorLaunch.Program.Session
import VendorLaunch.Proofs.History
import VendorLaunch.Proofs.Pieces
import VendorLaunch.Relay
import VendorLaunch.Settings
import VendorLaunch.Signal
import VendorLaunch.Table
import VendorLaunch.Termination
import VendorLaunch.Text.Blank
import VendorLaunch.Text.Case
import VendorLaunch.Text.CaseTable
import VendorLaunch.Text.Digit
import VendorLaunch.Text.Plain
import VendorLaunch.Text.PrintableTable
import VendorLaunch.Text.Quoted
import VendorLaunch.Text.Ranges
import VendorLaunch.Text.Similar
import VendorLaunch.Text.Split
import VendorLaunch.Text.Utf8
import VendorLaunch.Text.Word
import VendorLaunch.Text.WordTable
import VendorLaunch.Validation
import VendorLaunch.Vendor
import VendorLaunch.Verify
import VendorLaunch.Verify.Report
import VendorLaunch.Verify.Selection
import VendorLaunch.World
import VendorLaunch.Yaml
import VendorLaunch.Yaml.Cursor
import VendorLaunch.Yaml.Lexer
import VendorLaunch.Yaml.Node
import VendorLaunch.Yaml.Resolution
import VendorLaunch.Yaml.Scalar
import VendorLaunch.Yaml.Timestamp
import VendorLaunch.Yaml.Token
import VendorLaunch.Yaml.Value
import VendorLaunch.Proofs.Relay.Block
import VendorLaunch.Proofs.Relay.Delivery
import VendorLaunch.Proofs.Relay.Supervision
import VendorLaunch.Proofs.Launch.Planning
import VendorLaunch.Proofs.Launch.Trace
import VendorLaunch.Proofs.Relay.Script
import VendorLaunch.Proofs.Relay.Spawning
import VendorLaunch.Proofs.Launch.Ending
import VendorLaunch.Proofs.Launch.LibcSafety
import VendorLaunch.Proofs.Verify.Launchable
import VendorLaunch.Proofs.Operator.Root
import VendorLaunch.Proofs.Operator.Which
import VendorLaunch.Proofs.Launch.LogSettings
import VendorLaunch.Proofs.Relay.Steps
import VendorLaunch.Proofs.Launch.Records
import VendorLaunch.Proofs.Launch.Silence
import VendorLaunch.Proofs.Launch.Diagnostics
import VendorLaunch.Proofs.Catalog.Reading
import VendorLaunch.Proofs.Json
import VendorLaunch.Proofs.Verify.Reports
import VendorLaunch.Proofs.Operator.Arguments
import VendorLaunch.Proofs.Operator.Presentation
import VendorLaunch.Proofs.Verify.Survey
import VendorLaunch.Proofs.Verify.Requested
import VendorLaunch.Proofs.Verify.AnyBinary
import VendorLaunch.Proofs.Verify.Growth
import VendorLaunch.Proofs.Verify.Places
import VendorLaunch.Proofs.Relay.Opening
import VendorLaunch.Proofs.Relay.Restoring
import VendorLaunch.Proofs.Relay.Nesting
import VendorLaunch.Proofs.Launch.Discovery
import VendorLaunch.Proofs.Launch.SearchPath
import VendorLaunch.Proofs.Verify.Labels
import VendorLaunch.Proofs.Catalog.Resolving
import VendorLaunch.Proofs.Launch.Managers
import VendorLaunch.Proofs.Lowering
import VendorLaunch.Proofs.Detection
import VendorLaunch.Proofs.ChildResults
import VendorLaunch.Proofs.Log.Thresholds
import VendorLaunch.Proofs.Catalog.RoundTrip
import VendorLaunch.Proofs.Launch.Places
import VendorLaunch.Proofs.SignalNames
