import CopyOracle.Algorithm
import CopyOracle.Answer.Basic
import CopyOracle.Answer.Check
import CopyOracle.Answer.Compact
import CopyOracle.Answer.Diagnostic
import CopyOracle.Answer.Reader
import CopyOracle.Answer.Timing
import CopyOracle.Answer.Verbose
import CopyOracle.Batch.Basic
import CopyOracle.Batch.Error
import CopyOracle.Batch.Execution
import CopyOracle.Batch.Progress
import CopyOracle.Case.Basic
import CopyOracle.Case.Input
import CopyOracle.CommandLine.Execution
import CopyOracle.CommandLine.Request
import CopyOracle.CommandLine.Session
import CopyOracle.CommandLine.Usage
import CopyOracle.CommandLine.Value
import CopyOracle.Corpus
import CopyOracle.Duration
import CopyOracle.Embedding.Basic
import CopyOracle.Embedding.Copies
import CopyOracle.Embedding.Order
import CopyOracle.File.Action
import CopyOracle.File.Change
import CopyOracle.File.Error
import CopyOracle.File.Path
import CopyOracle.File.Tree
import CopyOracle.Generate.Basic
import CopyOracle.Generate.Family
import CopyOracle.Generate.Fuzz
import CopyOracle.Graph.Basic
import CopyOracle.Graph.Extension
import CopyOracle.Graph.Reader
import CopyOracle.Host.Behaviour
import CopyOracle.Host.Machine
import CopyOracle.Host.Schedule
import CopyOracle.Host.Signal
import CopyOracle.Job.Basic
import CopyOracle.Job.Record
import CopyOracle.Job.Solver
import CopyOracle.Json.Basic
import CopyOracle.Judgement.Basic
import CopyOracle.Judgement.Run
import CopyOracle.Judgement.Stage
import CopyOracle.Judgement.Verdict
import CopyOracle.Logging
import CopyOracle.Main
import CopyOracle.Mapping
import CopyOracle.Number.Binary
import CopyOracle.Number.Binomial
import CopyOracle.Number.Decimals
import CopyOracle.Number.FloatText
import CopyOracle.Number.Numeral
import CopyOracle.Number.Shortest
import CopyOracle.Proofs.Answer.Assignments
import CopyOracle.Proofs.Answer.Check
import CopyOracle.Proofs.Answer.Compact
import CopyOracle.Proofs.Answer.CopyLine
import CopyOracle.Proofs.Answer.Cost
import CopyOracle.Proofs.Answer.Findings
import CopyOracle.Proofs.Answer.Listing
import CopyOracle.Proofs.Answer.Numbering
import CopyOracle.Proofs.Answer.Parts
import CopyOracle.Proofs.Answer.Reader
import CopyOracle.Proofs.Answer.Relisting
import CopyOracle.Proofs.Answer.Report
import CopyOracle.Proofs.Answer.ReportLine
import CopyOracle.Proofs.Answer.Satisfiable
import CopyOracle.Proofs.Answer.Shape
import CopyOracle.Proofs.Answer.Timing
import CopyOracle.Proofs.Answer.Verbose
import CopyOracle.Proofs.Batch.Archive
import CopyOracle.Proofs.Batch.Completion
import CopyOracle.Proofs.Batch.Execution
import CopyOracle.Proofs.Batch.Order
import CopyOracle.Proofs.Batch.Progress
import CopyOracle.Proofs.Batch.Report
import CopyOracle.Proofs.Batch.Schedule
import CopyOracle.Proofs.Case
import CopyOracle.Proofs.Case.Fault
import CopyOracle.Proofs.Case.Input
import CopyOracle.Proofs.Corpus.Name
import CopyOracle.Proofs.Corpus.RoundTrip
import CopyOracle.Proofs.Embedding
import CopyOracle.Proofs.Embedding.Copies
import CopyOracle.Proofs.Embedding.Order
import CopyOracle.Proofs.Embedding.Path
import CopyOracle.Proofs.Embedding.Violation
import CopyOracle.Proofs.File.Action
import CopyOracle.Proofs.File.Change
import CopyOracle.Proofs.File.Directory
import CopyOracle.Proofs.File.Path
import CopyOracle.Proofs.File.Tree
import CopyOracle.Proofs.Generate.Campaign
import CopyOracle.Proofs.Generate.Forced
import CopyOracle.Proofs.Generate.Fuzz
import CopyOracle.Proofs.Generate.Guarded
import CopyOracle.Proofs.Generate.Nightmare
import CopyOracle.Proofs.Generate.Planted
import CopyOracle.Proofs.Graph.Change
import CopyOracle.Proofs.Graph.Cost
import CopyOracle.Proofs.Graph.Extension
import CopyOracle.Proofs.Graph.Plant
import CopyOracle.Proofs.Graph.Planting
import CopyOracle.Proofs.Graph.Reader
import CopyOracle.Proofs.Job
import CopyOracle.Proofs.Judgement
import CopyOracle.Proofs.Judgement.Lines
import CopyOracle.Proofs.Judgement.Stages
import CopyOracle.Proofs.Mapping
import CopyOracle.Proofs.Mapping.Collision
import CopyOracle.Proofs.Number.Binomial
import CopyOracle.Proofs.Number.Numeral
import CopyOracle.Proofs.Random.Draw
import CopyOracle.Proofs.Replay
import CopyOracle.Proofs.Result
import CopyOracle.Proofs.Search
import CopyOracle.Proofs.Tally.Partition
import CopyOracle.Proofs.Tally.PassRate
import CopyOracle.Proofs.Tally.Records
import CopyOracle.Proofs.Tally.Slices
import CopyOracle.Proofs.Text
import CopyOracle.Proofs.Text.Occurrence
import CopyOracle.Proofs.Text.Order
import CopyOracle.Proofs.Text.Pieces
import CopyOracle.Random.Draw
import CopyOracle.Random.Generator
import CopyOracle.Regex.Automaton
import CopyOracle.Regex.Basic
import CopyOracle.Regex.Reader
import CopyOracle.Shell.Arithmetic
import CopyOracle.Shell.Builtin.Basic
import CopyOracle.Shell.Builtin.Control
import CopyOracle.Shell.Builtin.Names
import CopyOracle.Shell.Builtin.Options
import CopyOracle.Shell.Builtin.Output
import CopyOracle.Shell.Builtin.Processes
import CopyOracle.Shell.Builtin.Surroundings
import CopyOracle.Shell.Builtin.Table
import CopyOracle.Shell.Builtin.Variables
import CopyOracle.Shell.Condition
import CopyOracle.Shell.Context
import CopyOracle.Shell.Cursor
import CopyOracle.Shell.Descriptors
import CopyOracle.Shell.Evaluation
import CopyOracle.Shell.Expansion
import CopyOracle.Shell.Launch
import CopyOracle.Shell.Pattern
import CopyOracle.Shell.Printing
import CopyOracle.Shell.Reader
import CopyOracle.Shell.Running
import CopyOracle.Shell.Search
import CopyOracle.Shell.Session
import CopyOracle.Shell.Syntax
import CopyOracle.Shell.Waiting
import CopyOracle.Shell.WordReader
import CopyOracle.Summary
import CopyOracle.Tally.Basic
import CopyOracle.Tally.Counts
import CopyOracle.Text.Basic
import CopyOracle.Text.Bytes
import CopyOracle.Text.Difference
import CopyOracle.Text.Directive
import CopyOracle.Text.Escape
import CopyOracle.Tool.Arguments
import CopyOracle.Tool.Awk.Command
import CopyOracle.Tool.Awk.Reader
import CopyOracle.Tool.Awk.Running
import CopyOracle.Tool.Awk.Syntax
import CopyOracle.Tool.Awk.Table
import CopyOracle.Tool.Awk.Token
import CopyOracle.Tool.Awk.Value
import CopyOracle.Tool.Basic
import CopyOracle.Tool.Children
import CopyOracle.Tool.Columns
import CopyOracle.Tool.Comparison
import CopyOracle.Tool.Counts
import CopyOracle.Tool.Directories
import CopyOracle.Tool.Dump
import CopyOracle.Tool.Encoding
import CopyOracle.Tool.Expression
import CopyOracle.Tool.Files
import CopyOracle.Tool.Finding
import CopyOracle.Tool.Grep
import CopyOracle.Tool.Options
import CopyOracle.Tool.Order
import CopyOracle.Tool.Sed.Command
import CopyOracle.Tool.Sed.Editing
import CopyOracle.Tool.Sed.Reader
import CopyOracle.Tool.Sed.Script
import CopyOracle.Tool.Starting
import CopyOracle.Tool.Streams
import CopyOracle.Tool.System
import CopyOracle.Tool.Table
import CopyOracle.Tool.Translation
import CopyOracle.Tool.Words
