import AttAssembly.Machine.Session
import AttAssembly.Main
import AttAssembly.Proofs.Line.Totality
import AttAssembly.Proofs.Analysis.Records
import AttAssembly.Proofs.Execution.Step
import AttAssembly.Proofs.Execution.Totality
import AttAssembly.Proofs.Execution.Accounting
import AttAssembly.Proofs.Execution.StackPointer
import AttAssembly.Proofs.Execution.Wrapping
import AttAssembly.Proofs.Execution.DataIndependence
import AttAssembly.Proofs.Lexeme.Numerals
import AttAssembly.Proofs.Lexeme.Scanning
import AttAssembly.Proofs.Lexeme.Heads
import AttAssembly.Proofs.Analysis.Operands
import AttAssembly.Proofs.Line.Data
import AttAssembly.Proofs.Line.Instructions
import AttAssembly.Proofs.Execution.Replay
import AttAssembly.Proofs.Analysis.Concatenation
import AttAssembly.Proofs.CommandLine.LineEnds
import AttAssembly.Proofs.CommandLine.Reports
import AttAssembly.Proofs.Execution.StructuralErrors
import AttAssembly.Proofs.CommandLine.ExitCodes
import AttAssembly.Proofs.Analysis.Margins
import AttAssembly.Proofs.Analysis.Comments
import AttAssembly.Proofs.Analysis.Labels
import AttAssembly.Proofs.Line.Layout
import AttAssembly.Proofs.Execution.Flags
import AttAssembly.Proofs.Execution.Overflow
import AttAssembly.Proofs.Analysis.Variables
import AttAssembly.Proofs.CommandLine.Endings
import AttAssembly.Proofs.Execution.Parentheses
import AttAssembly.Proofs.Analysis.Errors
import AttAssembly.Proofs.Operand.StringLiterals
import AttAssembly.Proofs.Operand.Expressions
import AttAssembly.Proofs.Operand.Sources
import AttAssembly.Proofs.Word.SignExtension
import AttAssembly.Proofs.Word.Views
import AttAssembly.Proofs.Report.Registers
import AttAssembly.Proofs.Machine.Session
import AttAssembly.Proofs.Execution.RoundTrip
import AttAssembly.Proofs.Operand.Literals
import AttAssembly.Proofs.CommandLine.ReportFile
import AttAssembly.Proofs.Analysis.Suffixes
import AttAssembly.Proofs.Analysis.Repetitions
import AttAssembly.Proofs.Execution.RegisterNames
import AttAssembly.Proofs.Mnemonic.Classification
