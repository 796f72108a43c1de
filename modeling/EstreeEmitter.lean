import EstreeEmitter.Assoc
import EstreeEmitter.Buffer
import EstreeEmitter.Buffer.Action
import EstreeEmitter.CommandLine
import EstreeEmitter.CommandLine.Options
import EstreeEmitter.Corrections.Default
import EstreeEmitter.Corrections.File
import EstreeEmitter.Corrections.Table
import EstreeEmitter.Corrections.Template
import EstreeEmitter.Emit
import EstreeEmitter.Emit.Basic
import EstreeEmitter.Emit.Leaf
import EstreeEmitter.Estree.Builder
import EstreeEmitter.Estree.Fault
import EstreeEmitter.Estree.Load
import EstreeEmitter.Estree.Node
import EstreeEmitter.Estree.Outline
import EstreeEmitter.Estree.Recipe
import EstreeEmitter.Folder
import EstreeEmitter.Interpolation
import EstreeEmitter.Json.Basic
import EstreeEmitter.Json.Printer
import EstreeEmitter.Json.Reader
import EstreeEmitter.Main
import EstreeEmitter.Note
import EstreeEmitter.Number.Binary64
import EstreeEmitter.Number.Shortest
import EstreeEmitter.Passes.Brackets
import EstreeEmitter.Passes.CallSite
import EstreeEmitter.Passes.Callable
import EstreeEmitter.Passes.Floor
import EstreeEmitter.Passes.Increment
import EstreeEmitter.Passes.Pipeline
import EstreeEmitter.Passes.Puts
import EstreeEmitter.Pattern.Alternatives
import EstreeEmitter.Pattern.Basic
import EstreeEmitter.Pattern.Check
import EstreeEmitter.Pattern.Error
import EstreeEmitter.Pattern.Lead
import EstreeEmitter.Pattern.Match
import EstreeEmitter.Pattern.Parser
import EstreeEmitter.Proofs.Assoc
import EstreeEmitter.Proofs.Buffer.Runs
import EstreeEmitter.Proofs.Buffer.Trim
import EstreeEmitter.Proofs.CommandLine.AllOrNothing
import EstreeEmitter.Proofs.Corrections.Marker
import EstreeEmitter.Proofs.Corrections.References
import EstreeEmitter.Proofs.Corrections.Template
import EstreeEmitter.Proofs.Corrections.Weight
import EstreeEmitter.Proofs.Emit.Composed
import EstreeEmitter.Proofs.Emit.Contract
import EstreeEmitter.Proofs.Emit.Kept
import EstreeEmitter.Proofs.Emit.Mirrored
import EstreeEmitter.Proofs.Emit.Placeless
import EstreeEmitter.Proofs.Emit.Run
import EstreeEmitter.Proofs.Emit.Standalone
import EstreeEmitter.Proofs.Estree.Annotations
import EstreeEmitter.Proofs.Estree.FirstFault
import EstreeEmitter.Proofs.Formula.BinaryTree
import EstreeEmitter.Proofs.Formula.Climb
import EstreeEmitter.Proofs.Formula.Grouping
import EstreeEmitter.Proofs.Formula.Reading
import EstreeEmitter.Proofs.Formula.Text
import EstreeEmitter.Proofs.Formula.Written
import EstreeEmitter.Proofs.Json.Balanced
import EstreeEmitter.Proofs.Json.Fuel
import EstreeEmitter.Proofs.Passes.Balanced
import EstreeEmitter.Proofs.Passes.CallSites
import EstreeEmitter.Proofs.Passes.CalledParameters
import EstreeEmitter.Proofs.Passes.CalledWords
import EstreeEmitter.Proofs.Passes.ClosingParen
import EstreeEmitter.Proofs.Passes.Cuts
import EstreeEmitter.Proofs.Passes.EmittedCalls
import EstreeEmitter.Proofs.Passes.Enclosing
import EstreeEmitter.Proofs.Passes.FloorAtOnce
import EstreeEmitter.Proofs.Passes.FloorText
import EstreeEmitter.Proofs.Passes.FloorTrees
import EstreeEmitter.Proofs.Passes.FlooredSteps
import EstreeEmitter.Proofs.Passes.LineByLine
import EstreeEmitter.Proofs.Passes.LineShape
import EstreeEmitter.Proofs.Passes.Literals
import EstreeEmitter.Proofs.Passes.MarkedDefinitions
import EstreeEmitter.Proofs.Passes.NoNewSites
import EstreeEmitter.Proofs.Passes.PrintedSums
import EstreeEmitter.Proofs.Passes.PutsLines
import EstreeEmitter.Proofs.Passes.ReferenceOrder
import EstreeEmitter.Proofs.Passes.References
import EstreeEmitter.Proofs.Passes.RegistryOrder
import EstreeEmitter.Proofs.Passes.Settled
import EstreeEmitter.Proofs.Passes.SiteScan
import EstreeEmitter.Proofs.Passes.StepLines
import EstreeEmitter.Proofs.Passes.StepOperands
import EstreeEmitter.Proofs.Passes.StepTrees
import EstreeEmitter.Proofs.Passes.Steps
import EstreeEmitter.Proofs.Passes.SumText
import EstreeEmitter.Proofs.Passes.TopLevel
import EstreeEmitter.Proofs.Passes.TornLiterals
import EstreeEmitter.Proofs.Passes.Weight
import EstreeEmitter.Proofs.Passes.WrittenSteps
import EstreeEmitter.Proofs.Pattern.Fits
import EstreeEmitter.Proofs.Printer.Arguments
import EstreeEmitter.Proofs.Printer.Desugar
import EstreeEmitter.Proofs.Printer.Dialects
import EstreeEmitter.Proofs.Printer.Expression
import EstreeEmitter.Proofs.Printer.Imports
import EstreeEmitter.Proofs.Printer.Layout
import EstreeEmitter.Proofs.Printer.Program
import EstreeEmitter.Proofs.Printer.Statement
import EstreeEmitter.Proofs.Printer.Tidy
import EstreeEmitter.Proofs.Reader.Ends
import EstreeEmitter.Proofs.Reader.Lines
import EstreeEmitter.Proofs.Reader.Marks
import EstreeEmitter.Proofs.Reader.Program
import EstreeEmitter.Proofs.Result
import EstreeEmitter.Proofs.Text.Blank
import EstreeEmitter.Proofs.Text.BuiltLiteral
import EstreeEmitter.Proofs.Text.Cut
import EstreeEmitter.Proofs.Text.LineShape
import EstreeEmitter.Proofs.Text.RawLiteral
import EstreeEmitter.Proofs.Text.RubyLiteral
import EstreeEmitter.Proofs.Text.Scan
import EstreeEmitter.Proofs.Text.Weight
import EstreeEmitter.Session
import EstreeEmitter.Text.Blank
import EstreeEmitter.Text.Case
import EstreeEmitter.Text.CharName
import EstreeEmitter.Text.CharName.Alphabets
import EstreeEmitter.Text.CharName.EastAsia
import EstreeEmitter.Text.CharName.Supplement
import EstreeEmitter.Text.CharName.Symbols
import EstreeEmitter.Text.Digit
import EstreeEmitter.Text.Identifier
import EstreeEmitter.Text.Integer
import EstreeEmitter.Text.Printable
import EstreeEmitter.Text.Quoted
import EstreeEmitter.Text.Range
import EstreeEmitter.Text.Scan
import EstreeEmitter.Text.Utf8
import EstreeEmitter.Text.Word
