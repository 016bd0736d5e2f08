import AlgebraDesk.Analysis.Analyze
import AlgebraDesk.Analysis.Basic
import AlgebraDesk.Analysis.Curve
import AlgebraDesk.Answer
import AlgebraDesk.Backend.Client
import AlgebraDesk.Backend.Info
import AlgebraDesk.Backend.Ranking
import AlgebraDesk.Calculator.Evaluate
import AlgebraDesk.Calculator.Postfix
import AlgebraDesk.Calculator.Scan
import AlgebraDesk.Calculator.Token
import AlgebraDesk.Category
import AlgebraDesk.Challenge
import AlgebraDesk.CommandLine.Help
import AlgebraDesk.CommandLine.Item
import AlgebraDesk.CommandLine.Name
import AlgebraDesk.CommandLine.Options
import AlgebraDesk.Console.Command
import AlgebraDesk.Console.Desk
import AlgebraDesk.Console.Entry
import AlgebraDesk.Console.Help
import AlgebraDesk.Console.Turn
import AlgebraDesk.Decimal.Display
import AlgebraDesk.Decimal.Fixed
import AlgebraDesk.Decimal.Numeral
import AlgebraDesk.Decimal.Rounding
import AlgebraDesk.Decimal.Shortest
import AlgebraDesk.Decimal.Significant
import AlgebraDesk.Double.Basic
import AlgebraDesk.Double.Complex
import AlgebraDesk.Fault
import AlgebraDesk.Fibonacci.Playback
import AlgebraDesk.Fibonacci.Sequence
import AlgebraDesk.Floating.Basic
import AlgebraDesk.Floating.Elementary
import AlgebraDesk.Health
import AlgebraDesk.Json.Reader
import AlgebraDesk.Json.Writer
import AlgebraDesk.Log.Note
import AlgebraDesk.Log.Record
import AlgebraDesk.Log.Template
import AlgebraDesk.Log.Threshold
import AlgebraDesk.Log.Timestamp
import AlgebraDesk.Plot.Canvas
import AlgebraDesk.Plot.Curve
import AlgebraDesk.Plot.Expression
import AlgebraDesk.Plot.Failure
import AlgebraDesk.Plot.Formula
import AlgebraDesk.Plot.Rule
import AlgebraDesk.Plot.Sample
import AlgebraDesk.Plot.Source
import AlgebraDesk.Plot.Token
import AlgebraDesk.Point
import AlgebraDesk.Polynomial.Basic
import AlgebraDesk.Polynomial.Display
import AlgebraDesk.Polynomial.Term
import AlgebraDesk.Program
import AlgebraDesk.Proofs.Analysis.Checked
import AlgebraDesk.Proofs.Analysis.Printed
import AlgebraDesk.Proofs.Analysis.Reading
import AlgebraDesk.Proofs.Analysis.Safety
import AlgebraDesk.Proofs.Calculator.Checked
import AlgebraDesk.Proofs.Calculator.Evaluation
import AlgebraDesk.Proofs.Calculator.Grammar
import AlgebraDesk.Proofs.Calculator.Infix
import AlgebraDesk.Proofs.Calculator.Juxtaposition
import AlgebraDesk.Proofs.Calculator.Listing
import AlgebraDesk.Proofs.Calculator.Neighbours
import AlgebraDesk.Proofs.Calculator.Numerals
import AlgebraDesk.Proofs.Calculator.Ordering
import AlgebraDesk.Proofs.Calculator.Safety
import AlgebraDesk.Proofs.Calculator.Scanning
import AlgebraDesk.Proofs.Category
import AlgebraDesk.Proofs.Decimal.Conversion
import AlgebraDesk.Proofs.Decimal.Digits
import AlgebraDesk.Proofs.Decimal.Display
import AlgebraDesk.Proofs.Decimal.Numeral
import AlgebraDesk.Proofs.Decimal.Rounding
import AlgebraDesk.Proofs.Double.Code
import AlgebraDesk.Proofs.Double.Integer
import AlgebraDesk.Proofs.Double.Nearest
import AlgebraDesk.Proofs.Double.Rational
import AlgebraDesk.Proofs.Double.Sum
import AlgebraDesk.Proofs.Fibonacci.Playback
import AlgebraDesk.Proofs.Fibonacci.Sequence
import AlgebraDesk.Proofs.Lists
import AlgebraDesk.Proofs.Plot.Monomial
import AlgebraDesk.Proofs.Plot.Printed
import AlgebraDesk.Proofs.Polynomial.Coefficient
import AlgebraDesk.Proofs.Polynomial.Extraction
import AlgebraDesk.Proofs.Polynomial.Factors
import AlgebraDesk.Proofs.Polynomial.Printing
import AlgebraDesk.Proofs.Polynomial.Products
import AlgebraDesk.Proofs.Polynomial.RoundTrip
import AlgebraDesk.Proofs.Polynomial.Shown
import AlgebraDesk.Proofs.Polynomial.Splitting
import AlgebraDesk.Proofs.Polynomial.Summand
import AlgebraDesk.Proofs.Quadratic
import AlgebraDesk.Proofs.Result
import AlgebraDesk.Proofs.Session
import AlgebraDesk.Quadratic
import AlgebraDesk.Report.Basic
import AlgebraDesk.Report.Print
import AlgebraDesk.Report.Printout
import AlgebraDesk.Report.Tools
import AlgebraDesk.Session
import AlgebraDesk.Symbolic.Angle
import AlgebraDesk.Symbolic.Estimate
import AlgebraDesk.Symbolic.Logarithm
import AlgebraDesk.Symbolic.Nature
import AlgebraDesk.Symbolic.Power
import AlgebraDesk.Symbolic.Radical
import AlgebraDesk.Symbolic.Scalar
import AlgebraDesk.Symbolic.Sum
import AlgebraDesk.Symbolic.Term
import AlgebraDesk.Text.Alphanumeric
import AlgebraDesk.Text.Blank
import AlgebraDesk.Text.Case
import AlgebraDesk.Text.CaseTable
import AlgebraDesk.Text.Digit
import AlgebraDesk.Text.Keyword
import AlgebraDesk.Text.Line
import AlgebraDesk.Text.Numeral
import AlgebraDesk.Text.Printable
import AlgebraDesk.Text.Quoted
import AlgebraDesk.Text.Span
import AlgebraDesk.Value.Access
import AlgebraDesk.Value.Basic
import AlgebraDesk.Value.Display
import AlgebraDesk.Value.Notation
import AlgebraDesk.Value.Number
import AlgebraDesk.Main
import AlgebraDesk.Proofs.Session.Parts
import AlgebraDesk.Proofs.Console.Idle
import AlgebraDesk.Proofs.Backend.Description
import AlgebraDesk.Proofs.Backend.Report
import AlgebraDesk.Proofs.Console.Questions
import AlgebraDesk.Proofs.Quadratic.Checked
import AlgebraDesk.Proofs.Validation
import AlgebraDesk.Proofs.Calculator.Parentheses
import AlgebraDesk.Proofs.Calculator.Runs
import AlgebraDesk.Proofs.Decimal.Canonical
import AlgebraDesk.Proofs.Console.Tools
import AlgebraDesk.Proofs.Decimal.Stability
import AlgebraDesk.Proofs.Double.Rounded
import AlgebraDesk.Proofs.Double.Negation
import AlgebraDesk.Proofs.Double.Comparison
import AlgebraDesk.Proofs.Quadratic.Flipped
import AlgebraDesk.Proofs.Analysis.Sides
import AlgebraDesk.Proofs.Analysis.Exchange
import AlgebraDesk.Proofs.Analysis.Curve
import AlgebraDesk.Proofs.Double.Exact
import AlgebraDesk.Proofs.Double.Root
import AlgebraDesk.Proofs.Double.Monotone
import AlgebraDesk.Proofs.Quadratic.Integers
import AlgebraDesk.Proofs.Quadratic.Apart
import AlgebraDesk.Proofs.Quadratic.Reported
import AlgebraDesk.Proofs.Double.Range
import AlgebraDesk.Proofs.Analysis.Overflow
import AlgebraDesk.Proofs.Text.Parts
import AlgebraDesk.Proofs.Plot.Relation
import AlgebraDesk.Proofs.Double.Order
import AlgebraDesk.Proofs.Double.Scaling
import AlgebraDesk.Proofs.Plot.Frame
import AlgebraDesk.Proofs.Plot.Painting
import AlgebraDesk.Proofs.Plot.Window
import AlgebraDesk.Proofs.Plot.Drawing
import AlgebraDesk.Proofs.Plot.Picture
import AlgebraDesk.Proofs.Text.Keyword
import AlgebraDesk.Proofs.Text.Lines
import AlgebraDesk.Proofs.Analysis.Introduction
import AlgebraDesk.Proofs.Analysis.System
import AlgebraDesk.Proofs.Analysis.Derivative
import AlgebraDesk.Proofs.Backend.Exchange
import AlgebraDesk.Proofs.Calculator.Rows
import AlgebraDesk.Proofs.Calculator.Alphabet
import AlgebraDesk.Proofs.Double.Closest
import AlgebraDesk.Proofs.Fibonacci.Growth
import AlgebraDesk.Proofs.Fibonacci.Reveal
import AlgebraDesk.Proofs.Console.Play
import AlgebraDesk.Proofs.Console.Bare
import AlgebraDesk.Proofs.Polynomial.Decomposition
