import VectorTrial.CommandLine.Arguments
import VectorTrial.CommandLine.Listing
import VectorTrial.CommandLine.Observer
import VectorTrial.CommandLine.Progress
import VectorTrial.CommandLine.Session
import VectorTrial.Decimal.Scaling
import VectorTrial.Decimal.Shortest
import VectorTrial.Instruction.Catalog
import VectorTrial.Instruction.Emulation
import VectorTrial.Instruction.Host
import VectorTrial.Instruction.Json
import VectorTrial.Json.Decode
import VectorTrial.Json.Reader
import VectorTrial.Json.Token
import VectorTrial.Json.Value
import VectorTrial.Json.Writer
import VectorTrial.Lane.Json
import VectorTrial.Lane.Register
import VectorTrial.Lane.Shape
import VectorTrial.Lane.Width
import VectorTrial.Main
import VectorTrial.Operand.Generator
import VectorTrial.Operand.Keystream
import VectorTrial.Operand.Source
import VectorTrial.Operand.Strategy
import VectorTrial.Program.Builder
import VectorTrial.Program.Error
import VectorTrial.Program.Expr
import VectorTrial.Program.Function
import VectorTrial.Program.Json
import VectorTrial.Program.Module
import VectorTrial.Program.Synthetic
import VectorTrial.Program.Text
import VectorTrial.Program.Type
import VectorTrial.Program.Verification
import VectorTrial.Proofs.Instruction.Symbols
import VectorTrial.Proofs.Json.Reordering
import VectorTrial.Proofs.Json.Scanning
import VectorTrial.Proofs.Json.Spelling
import VectorTrial.Proofs.Lane.Decomposition
import VectorTrial.Proofs.Lane.Repacking
import VectorTrial.Proofs.Lane.Shapes
import VectorTrial.Proofs.Lane.Truncation
import VectorTrial.Proofs.Operand.Draws
import VectorTrial.Proofs.Operand.Vectors
import VectorTrial.Proofs.Outcome
import VectorTrial.Proofs.Program.Acceptance
import VectorTrial.Proofs.Program.Atomicity
import VectorTrial.Proofs.Program.Building
import VectorTrial.Proofs.Program.Changes
import VectorTrial.Proofs.Program.CodeGeneration
import VectorTrial.Proofs.Program.Emission
import VectorTrial.Proofs.Program.Evaluation
import VectorTrial.Proofs.Program.Fitting
import VectorTrial.Proofs.Program.FreeVariables
import VectorTrial.Proofs.Program.Linking
import VectorTrial.Proofs.Program.LiteralRange
import VectorTrial.Proofs.Program.Literals
import VectorTrial.Proofs.Program.Lookup
import VectorTrial.Proofs.Program.ReadingBack
import VectorTrial.Proofs.Program.Rendering
import VectorTrial.Proofs.Program.Resolution
import VectorTrial.Proofs.Program.StoredForms
import VectorTrial.Proofs.Program.Synthesis
import VectorTrial.Proofs.Program.Transfer
import VectorTrial.Proofs.Program.TypeSafety
import VectorTrial.Proofs.Program.Typing
import VectorTrial.Proofs.Program.WellFormed
import VectorTrial.Proofs.Program.WrittenModules
import VectorTrial.Proofs.Sequence.Partners
import VectorTrial.Proofs.Telemetry.Thresholds
import VectorTrial.Proofs.Telemetry.Variables
import VectorTrial.Proofs.Text.ByteOrder
import VectorTrial.Proofs.Text.Reading
import VectorTrial.Proofs.Text.Searching
import VectorTrial.Proofs.Trial.Accounting
import VectorTrial.Proofs.Trial.Bench
import VectorTrial.Proofs.Trial.Comparisons
import VectorTrial.Proofs.Trial.Counting
import VectorTrial.Proofs.Trial.Courses
import VectorTrial.Proofs.Trial.Execution
import VectorTrial.Proofs.Trial.Forgetting
import VectorTrial.Proofs.Trial.History
import VectorTrial.Proofs.Trial.Independence
import VectorTrial.Proofs.Trial.Iteration
import VectorTrial.Proofs.Trial.OnePair
import VectorTrial.Proofs.Trial.PosedPairs
import VectorTrial.Proofs.Trial.Protocol
import VectorTrial.Proofs.Trial.QuadwordCounts
import VectorTrial.Proofs.Trial.Ranges
import VectorTrial.Proofs.Trial.Records
import VectorTrial.Proofs.Trial.RepeatedResults
import VectorTrial.Proofs.Trial.ShiftCounts
import VectorTrial.Proofs.Trial.SideBySide
import VectorTrial.Proofs.Trial.Trace
import VectorTrial.Proofs.Verdict.Reports
import VectorTrial.Proofs.Wrapper.Body
import VectorTrial.Proofs.Wrapper.Faithful
import VectorTrial.Proofs.Wrapper.Invocation
import VectorTrial.Proofs.Wrapper.Lowering
import VectorTrial.Sequence.Ascending
import VectorTrial.Sequence.Distinct
import VectorTrial.Telemetry.Filter
import VectorTrial.Telemetry.Pattern
import VectorTrial.Telemetry.Settings
import VectorTrial.Telemetry.Span
import VectorTrial.Text.Blank
import VectorTrial.Text.Hexadecimal
import VectorTrial.Text.LetterOrNumber
import VectorTrial.Text.Line
import VectorTrial.Text.Numeral
import VectorTrial.Text.Quoted
import VectorTrial.Text.Unprintable
import VectorTrial.Text.Utf8
import VectorTrial.Tool.Environment
import VectorTrial.Tool.Outcome
import VectorTrial.Trial.Execution
import VectorTrial.Trial.Failure
import VectorTrial.Trial.Report
import VectorTrial.Trial.ResultMap
import VectorTrial.Trial.Run
import VectorTrial.Trial.Settings
import VectorTrial.Trial.Verification
import VectorTrial.Verdict.AliveTv
import VectorTrial.Verdict.Basic
import VectorTrial.Verdict.Checker
import VectorTrial.Verdict.Report
import VectorTrial.Wrapper.Error
import VectorTrial.Wrapper.Library
import VectorTrial.Wrapper.Lowering
import VectorTrial.Wrapper.Machine
import VectorTrial.Wrapper.Source
import VectorTrial.Wrapper.Toolchain
