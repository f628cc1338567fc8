import CheckpointMonitor.Text.Occurrence
import CheckpointMonitor.Text.Utf8
import CheckpointMonitor.Text.Hexadecimal
import CheckpointMonitor.Text.Ranges
import CheckpointMonitor.Text.Blank
import CheckpointMonitor.Text.Alphanumeric
import CheckpointMonitor.Text.Printable
import CheckpointMonitor.Protocol.Marker
import CheckpointMonitor.Protocol.Phase
import CheckpointMonitor.Protocol.Violation
import CheckpointMonitor.Tally
import CheckpointMonitor.Tally.Summary
import CheckpointMonitor.Monitor
import CheckpointMonitor.Log.Level
import CheckpointMonitor.Log.Record
import CheckpointMonitor.Log.Pattern
import CheckpointMonitor.Log.Directive
import CheckpointMonitor.Log.Filter
import CheckpointMonitor.Channel.Fault
import CheckpointMonitor.Channel.Source
import CheckpointMonitor.Channel.Sink
import CheckpointMonitor.Watch.Termination
import CheckpointMonitor.Watch
import CheckpointMonitor.Decimal.Binary64
import CheckpointMonitor.Decimal.Shortest
import CheckpointMonitor.Toml.Document
import CheckpointMonitor.Toml.Cursor
import CheckpointMonitor.Toml.Quoted
import CheckpointMonitor.Toml.Number
import CheckpointMonitor.Toml.Moment
import CheckpointMonitor.Toml.Grammar
import CheckpointMonitor.Toml.Diagnostic
import CheckpointMonitor.Settings
import CheckpointMonitor.Settings.Decode
import CheckpointMonitor.Settings.Load
import CheckpointMonitor.FileTree
import CheckpointMonitor.Failure
import CheckpointMonitor.CommandLine.Options
import CheckpointMonitor.CommandLine.Execution
import CheckpointMonitor.Main
import CheckpointMonitor.Proofs.Monitor.Acceptance
import CheckpointMonitor.Proofs.Monitor.Act
import CheckpointMonitor.Proofs.Watch.Run
import CheckpointMonitor.Proofs.Session
import CheckpointMonitor.Proofs.Channel.Reading
import CheckpointMonitor.Proofs.Text.Lossy
import CheckpointMonitor.Proofs.Channel.Writing
import CheckpointMonitor.Proofs.Monitor.Course
import CheckpointMonitor.Proofs.Protocol.Detection
import CheckpointMonitor.Proofs.Channel.Incidents
import CheckpointMonitor.Proofs.Watch.Passage
import CheckpointMonitor.Proofs.Watch.Agreement
import CheckpointMonitor.Proofs.Watch.Reference
import CheckpointMonitor.Proofs.Watch.Failing
import CheckpointMonitor.Proofs.Watch.Interruption
import CheckpointMonitor.Proofs.Channel.Delivery
import CheckpointMonitor.Proofs.Watch.Cutting
import CheckpointMonitor.Proofs.Monitor.Line
import CheckpointMonitor.Proofs.Monitor.Numbering
import CheckpointMonitor.Proofs.Watch.Coverage
import CheckpointMonitor.Proofs.Watch.Composition
import CheckpointMonitor.Proofs.Tally.Report
import CheckpointMonitor.Proofs.Watch.Relay
import CheckpointMonitor.Proofs.Monitor.Halting
import CheckpointMonitor.Proofs.Watch.Halted
import CheckpointMonitor.Proofs.Watch.Content
import CheckpointMonitor.Proofs.CommandLine.Conclusion
import CheckpointMonitor.Proofs.Monitor.Trail
import CheckpointMonitor.Proofs.Journal
import CheckpointMonitor.Proofs.Watch.Accounts
import CheckpointMonitor.Proofs.Monitor.Verdict
import CheckpointMonitor.Proofs.Watch.Signature
import CheckpointMonitor.Proofs.Toml.Names
import CheckpointMonitor.Proofs.Settings.Layers
import CheckpointMonitor.Proofs.CommandLine.Start
import CheckpointMonitor.Proofs.Failure
import CheckpointMonitor.Proofs.Tally.Writing
import CheckpointMonitor.Proofs.Tally.Readback
import CheckpointMonitor.Proofs.Settings.Decoding
