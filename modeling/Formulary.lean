import Formulary.Build
import Formulary.Cli.Assignment
import Formulary.Cli.Basic
import Formulary.Cli.Flag
import Formulary.Cli.Help
import Formulary.Cli.Invocation
import Formulary.Cli.Usage
import Formulary.Evaluation
import Formulary.Event
import Formulary.Expr.Basic
import Formulary.Expr.Error
import Formulary.Expr.Eval
import Formulary.Expr.Function
import Formulary.Expr.Grammar
import Formulary.Expr.Literal
import Formulary.Expr.Numeral
import Formulary.Expr.Quotation
import Formulary.Expr.Scan
import Formulary.Expr.Token
import Formulary.Failure
import Formulary.Filter.Basic
import Formulary.Filter.Keyed
import Formulary.Main
import Formulary.Number.Arithmetic
import Formulary.Number.Binary
import Formulary.Number.Growth
import Formulary.Number.Layout
import Formulary.Number.Reading
import Formulary.Number.Shortest
import Formulary.Placeholder
import Formulary.Proofs.Applying
import Formulary.Proofs.Arithmetic
import Formulary.Proofs.ArithmeticText
import Formulary.Proofs.AssignmentText
import Formulary.Proofs.CheckOrder
import Formulary.Proofs.CommandLine
import Formulary.Proofs.Comments
import Formulary.Proofs.Decimals
import Formulary.Proofs.Diagnostics
import Formulary.Proofs.Doubles
import Formulary.Proofs.DrawCounts
import Formulary.Proofs.Endpoints
import Formulary.Proofs.Escaping
import Formulary.Proofs.Evaluating
import Formulary.Proofs.Expansion
import Formulary.Proofs.ExponentLimit
import Formulary.Proofs.Formula
import Formulary.Proofs.FormulaText
import Formulary.Proofs.FractionalPower
import Formulary.Proofs.FragmentScan
import Formulary.Proofs.Fragments
import Formulary.Proofs.HalfAway
import Formulary.Proofs.Interruption
import Formulary.Proofs.KeyedLiterals
import Formulary.Proofs.KeyedScan
import Formulary.Proofs.LeftOver
import Formulary.Proofs.Logarithm
import Formulary.Proofs.MergeBatches
import Formulary.Proofs.Merging
import Formulary.Proofs.Nearest
import Formulary.Proofs.Numerals
import Formulary.Proofs.OperatorOverflow
import Formulary.Proofs.Overflow
import Formulary.Proofs.OverlapComponents
import Formulary.Proofs.Parsing
import Formulary.Proofs.PlaceholderValue
import Formulary.Proofs.Powers
import Formulary.Proofs.RangeLayout
import Formulary.Proofs.Reading
import Formulary.Proofs.Recovery
import Formulary.Proofs.Remainder
import Formulary.Proofs.Rendering
import Formulary.Proofs.Rounding
import Formulary.Proofs.Running
import Formulary.Proofs.Scanning
import Formulary.Proofs.Settling
import Formulary.Proofs.StagedEntries
import Formulary.Proofs.Staging
import Formulary.Proofs.SubstitutionOrder
import Formulary.Proofs.TokenCuts
import Formulary.Proofs.UniformSampling
import Formulary.Proofs.UniformText
import Formulary.Proofs.Whitelist
import Formulary.Rack
import Formulary.Replacement
import Formulary.Sampling.Basic
import Formulary.Sampling.Drawing
import Formulary.Sampling.Interval
import Formulary.Sampling.Merge
import Formulary.Sampling.Range
import Formulary.Schema.Basic
import Formulary.Schema.Problem
import Formulary.Service.Basic
import Formulary.Service.Request
import Formulary.Settings
import Formulary.Text.Basic
import Formulary.Text.Blank
import Formulary.Text.CodePoint
import Formulary.Text.Compatibility
import Formulary.Text.Digit
import Formulary.Text.Identifier
import Formulary.Text.Printable
import Formulary.Text.Quoted
import Formulary.Text.Uppercase
import Formulary.Value
