import LintLedger.Analyzer.Bandit
import LintLedger.Analyzer.Basic
import LintLedger.Analyzer.Bearer
import LintLedger.Analyzer.Biome
import LintLedger.Analyzer.Eslint
import LintLedger.Analyzer.Gitleaks
import LintLedger.Analyzer.Jscpd
import LintLedger.Analyzer.Mypy
import LintLedger.Analyzer.Radon
import LintLedger.Analyzer.Registry
import LintLedger.Analyzer.Sarif
import LintLedger.Analyzer.Semgrep
import LintLedger.Analyzer.Vulture
import LintLedger.Audit.Basic
import LintLedger.Audit.Log
import LintLedger.Audit.Summary
import LintLedger.CommandLine.Grammar
import LintLedger.CommandLine.Parser
import LintLedger.Data.Assoc
import LintLedger.Decimal.Basic
import LintLedger.Decimal.Styled
import LintLedger.Digest.Sha256
import LintLedger.FileTree.Basic
import LintLedger.Finding
import LintLedger.Identity
import LintLedger.Json.Basic
import LintLedger.Json.Reader
import LintLedger.Json.Reading
import LintLedger.Json.Writer
import LintLedger.Machine.Disk
import LintLedger.Machine.Program
import LintLedger.Machine.Supervision
import LintLedger.Machine.System
import LintLedger.Main
import LintLedger.Path.Basic
import LintLedger.Path.Folder
import LintLedger.PathContext
import LintLedger.Process.Basic
import LintLedger.Process.Sandbox
import LintLedger.Process.Tool
import LintLedger.Project
import LintLedger.Proofs.Analyzer.Clones
import LintLedger.Proofs.Analyzer.DeadCode
import LintLedger.Proofs.Analyzer.Exchange
import LintLedger.Proofs.Analyzer.Fields
import LintLedger.Proofs.Analyzer.Malformed
import LintLedger.Proofs.Analyzer.Places
import LintLedger.Proofs.Analyzer.Ranks
import LintLedger.Proofs.Analyzer.Redaction
import LintLedger.Proofs.Analyzer.Report
import LintLedger.Proofs.Analyzer.Rule
import LintLedger.Proofs.Analyzer.Scans
import LintLedger.Proofs.Analyzer.TypeErrors
import LintLedger.Proofs.Audit.Completion
import LintLedger.Proofs.Audit.Course
import LintLedger.Proofs.Audit.Harvest
import LintLedger.Proofs.Audit.Independence
import LintLedger.Proofs.Audit.Log
import LintLedger.Proofs.Audit.Progress
import LintLedger.Proofs.Audit.Standing
import LintLedger.Proofs.Audit.Stopping
import LintLedger.Proofs.Audit.Supply
import LintLedger.Proofs.Audit.Tally
import LintLedger.Proofs.Audit.Trace
import LintLedger.Proofs.CommandLine.Child
import LintLedger.Proofs.CommandLine.Refusal
import LintLedger.Proofs.CommandLine.Understood
import LintLedger.Proofs.Data.Assoc
import LintLedger.Proofs.Data.Digits
import LintLedger.Proofs.Data.Joined
import LintLedger.Proofs.FileTree.Below
import LintLedger.Proofs.FileTree.Changed
import LintLedger.Proofs.FileTree.Content
import LintLedger.Proofs.Finding.Columns
import LintLedger.Proofs.Finding.Identity
import LintLedger.Proofs.Finding.Moved
import LintLedger.Proofs.Finding.Separators
import LintLedger.Proofs.Json.Compact
import LintLedger.Proofs.Json.RoundTrip
import LintLedger.Proofs.Path.Absolute
import LintLedger.Proofs.Path.Ancestor
import LintLedger.Proofs.Path.Components
import LintLedger.Proofs.Path.Relative
import LintLedger.Proofs.Path.Stored
import LintLedger.Proofs.Process.Records
import LintLedger.Proofs.Project.Discovery
import LintLedger.Proofs.Schedule.Apart
import LintLedger.Proofs.Schedule.Course
import LintLedger.Proofs.Schedule.Progress
import LintLedger.Proofs.Schedule.Room
import LintLedger.Proofs.Schedule.Supply
import LintLedger.Proofs.Schedule.Verdict
import LintLedger.Proofs.Session.Confined
import LintLedger.Proofs.Session.Database
import LintLedger.Proofs.Session.Pruning
import LintLedger.Proofs.Session.Room
import LintLedger.Proofs.Session.Steady
import LintLedger.Proofs.Session.Strategies
import LintLedger.Proofs.Store.Cells
import LintLedger.Proofs.Store.Contents
import LintLedger.Proofs.Store.Export
import LintLedger.Proofs.Store.Extract
import LintLedger.Proofs.Store.Failure
import LintLedger.Proofs.Store.Folders
import LintLedger.Proofs.Store.History
import LintLedger.Proofs.Store.Persist
import LintLedger.Proofs.Store.Reachable
import LintLedger.Proofs.Store.Removal
import LintLedger.Proofs.Store.Stock
import LintLedger.Proofs.Timestamp.Calendar
import LintLedger.Proofs.Timestamp.Writing
import LintLedger.Regex.Basic
import LintLedger.Regex.Reader
import LintLedger.Report.Outcomes
import LintLedger.Report.Table
import LintLedger.Report.Tools
import LintLedger.RunRecord
import LintLedger.Schedule.Basic
import LintLedger.Schedule.Child
import LintLedger.Schedule.Plan
import LintLedger.Schedule.Timed
import LintLedger.Schema.Tables
import LintLedger.Session.Audit
import LintLedger.Session.Basic
import LintLedger.Session.Run
import LintLedger.Settings
import LintLedger.Settings.Load
import LintLedger.Shell.Arithmetic
import LintLedger.Shell.Assignment
import LintLedger.Shell.Builtin
import LintLedger.Shell.Execution
import LintLedger.Shell.Expansion
import LintLedger.Shell.Fields
import LintLedger.Shell.Format
import LintLedger.Shell.Jobs
import LintLedger.Shell.Parser
import LintLedger.Shell.Pattern
import LintLedger.Shell.Redirection
import LintLedger.Shell.Search
import LintLedger.Shell.Start
import LintLedger.Shell.State
import LintLedger.Shell.Syntax
import LintLedger.Shell.Test
import LintLedger.Store.Basic
import LintLedger.Store.Export
import LintLedger.Store.Extract
import LintLedger.Store.Open
import LintLedger.Text.Blank
import LintLedger.Text.Bytes
import LintLedger.Text.Case
import LintLedger.Text.Difference
import LintLedger.Text.Directive
import LintLedger.Text.Integer
import LintLedger.Text.Quoted
import LintLedger.Text.Ranges
import LintLedger.Text.Width
import LintLedger.Timestamp
import LintLedger.Toml.Reader
import LintLedger.Toml.Scalar
import LintLedger.Utility.Awk.Basic
import LintLedger.Utility.Awk.Execution
import LintLedger.Utility.Awk.Reader
import LintLedger.Utility.Awk.State
import LintLedger.Utility.Awk.Table
import LintLedger.Utility.Awk.Value
import LintLedger.Utility.Basic
import LintLedger.Utility.Calendar
import LintLedger.Utility.Catalog
import LintLedger.Utility.Changes
import LintLedger.Utility.Column
import LintLedger.Utility.Compare
import LintLedger.Utility.Copying
import LintLedger.Utility.Digests
import LintLedger.Utility.Dump
import LintLedger.Utility.Editor.Basic
import LintLedger.Utility.Editor.Script
import LintLedger.Utility.Expression
import LintLedger.Utility.Facts
import LintLedger.Utility.File
import LintLedger.Utility.Find
import LintLedger.Utility.Grep
import LintLedger.Utility.Launching
import LintLedger.Utility.Layout
import LintLedger.Utility.Lines
import LintLedger.Utility.Listing
import LintLedger.Utility.Merge
import LintLedger.Utility.Mode
import LintLedger.Utility.Paths
import LintLedger.Utility.Printing
import LintLedger.Utility.Removal
import LintLedger.Utility.Sequence
import LintLedger.Utility.Sort
import LintLedger.Utility.Stream
