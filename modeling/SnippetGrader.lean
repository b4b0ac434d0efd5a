import SnippetGrader.Builtin.Convert
import SnippetGrader.Builtin.Invoke
import SnippetGrader.Builtin.Libraries
import SnippetGrader.Builtin.ListMethod
import SnippetGrader.Builtin.Sequence
import SnippetGrader.Builtin.Signature
import SnippetGrader.Builtin.TextMethod
import SnippetGrader.Expression.Arguments
import SnippetGrader.Expression.Assign
import SnippetGrader.Expression.Call
import SnippetGrader.Expression.Chain
import SnippetGrader.Expression.Evaluate
import SnippetGrader.Expression.Form
import SnippetGrader.Expression.Literal
import SnippetGrader.Expression.Target
import SnippetGrader.Expression.Template
import SnippetGrader.Grading.Challenge
import SnippetGrader.Grading.Match
import SnippetGrader.Grading.Rule
import SnippetGrader.Grading.Service
import SnippetGrader.Grading.Verdict
import SnippetGrader.Machine.Basic
import SnippetGrader.Machine.Console
import SnippetGrader.Machine.Engine
import SnippetGrader.Machine.Failure
import SnippetGrader.Machine.Host
import SnippetGrader.Machine.Store
import SnippetGrader.Number.Arithmetic
import SnippetGrader.Number.Decimal
import SnippetGrader.Number.Dyadic
import SnippetGrader.Number.FloatText
import SnippetGrader.Number.Power
import SnippetGrader.Number.Reading
import SnippetGrader.Program.Level
import SnippetGrader.Program.Session
import SnippetGrader.Proofs.Failures.Basic
import SnippetGrader.Proofs.Failures.Value
import SnippetGrader.Proofs.Failures.Sorting
import SnippetGrader.Proofs.Failures.Builtin
import SnippetGrader.Proofs.Failures.Statement
import SnippetGrader.Proofs.Composition.Basic
import SnippetGrader.Sorting.Merge
import SnippetGrader.Sorting.Schedule
import SnippetGrader.Sorting.Search
import SnippetGrader.Sorting.Stretch
import SnippetGrader.Source.Form
import SnippetGrader.Source.Keyword
import SnippetGrader.Source.Line
import SnippetGrader.Source.Name
import SnippetGrader.Source.Scan
import SnippetGrader.Source.Statement
import SnippetGrader.Source.Symbol
import SnippetGrader.Statement.Clause
import SnippetGrader.Statement.Execute
import SnippetGrader.Statement.Function
import SnippetGrader.Statement.Simple
import SnippetGrader.Text.Base64
import SnippetGrader.Text.Blank
import SnippetGrader.Text.Case
import SnippetGrader.Text.CharacterName.Aliases
import SnippetGrader.Text.CharacterName.AncientScripts
import SnippetGrader.Text.CharacterName.EastAsia
import SnippetGrader.Text.CharacterName.FirstScripts
import SnippetGrader.Text.CharacterName.FurtherScripts
import SnippetGrader.Text.CharacterName.Lookup
import SnippetGrader.Text.CharacterName.Notation
import SnippetGrader.Text.CharacterName.Pictures
import SnippetGrader.Text.CharacterName.Signs
import SnippetGrader.Text.CharacterName.Symbols
import SnippetGrader.Text.Digit
import SnippetGrader.Text.Interval
import SnippetGrader.Text.Letter
import SnippetGrader.Text.Pattern
import SnippetGrader.Text.Printable
import SnippetGrader.Text.Quoted
import SnippetGrader.Text.Search
import SnippetGrader.Value.Arithmetic
import SnippetGrader.Value.Basic
import SnippetGrader.Value.Datum
import SnippetGrader.Value.Format
import SnippetGrader.Value.FormatSpec
import SnippetGrader.Value.Numeric
import SnippetGrader.Value.Order
import SnippetGrader.Value.Slice
import SnippetGrader.Value.Text
import SnippetGrader.Expression.Constant.Token
import SnippetGrader.Proofs.Composition.Builtin
import SnippetGrader.Proofs.Composition.Expression
import SnippetGrader.Proofs.Composition.Statement
import SnippetGrader.Proofs.Termination
import SnippetGrader.Proofs.Output
import SnippetGrader.Proofs.StepBudget
import SnippetGrader.Proofs.Course
import SnippetGrader.Proofs.StepLimit
import SnippetGrader.Proofs.Rendering.Tree
import SnippetGrader.Proofs.Rendering.Lexeme
import SnippetGrader.Proofs.Rendering.Sign
import SnippetGrader.Proofs.Rendering.Shape
import SnippetGrader.Proofs.Rendering.Form
import SnippetGrader.Proofs.Rendering.Operand
import SnippetGrader.Proofs.Rendering.Evaluation
import SnippetGrader.Proofs.Rendering.Items
import SnippetGrader.Proofs.Printing
import SnippetGrader.Proofs.Scoping
import SnippetGrader.Proofs.Layout.Physical
import SnippetGrader.Proofs.Layout.Code
import SnippetGrader.Proofs.Layout.Comments
import SnippetGrader.Proofs.Layout.Reading
import SnippetGrader.Proofs.Layout.Tree
import SnippetGrader.Proofs.Layout.Lines
import SnippetGrader.Proofs.Layout.Blocks
import SnippetGrader.Proofs.Layout.Signature
import SnippetGrader.Proofs.Layout.Execution
import SnippetGrader.Proofs.Isolation
import SnippetGrader.Proofs.Handling
import SnippetGrader.Proofs.Indentation.Lines
import SnippetGrader.Proofs.Indentation.Twins
import SnippetGrader.Proofs.Indentation.Execution
import SnippetGrader.Proofs.Indentation.Inline
import SnippetGrader.Proofs.Written.Content
import SnippetGrader.Proofs.Written.Quoted
import SnippetGrader.Proofs.Written.Reading
import SnippetGrader.Proofs.Written.Evaluation
import SnippetGrader.Proofs.Grading.Limits
import SnippetGrader.Proofs.Grading.Readers
import SnippetGrader.Proofs.Grading.Verdicts
import SnippetGrader.Proofs.Numbering
import SnippetGrader.Proofs.Provenance
import SnippetGrader.Proofs.Lambda
import SnippetGrader.Proofs.Operation.Form
import SnippetGrader.Proofs.Operation.Enclosed
import SnippetGrader.Proofs.Operation.Extension
import SnippetGrader.Proofs.Operation.Numeral
import SnippetGrader.Proofs.Operation.Arithmetic
import SnippetGrader.Proofs.Raising.Reading
import SnippetGrader.Proofs.Raising.Execution
import SnippetGrader.Proofs.Layout.Separation
import SnippetGrader.Proofs.Definition.Parameters
import SnippetGrader.Proofs.Definition.Inline
import SnippetGrader.Proofs.Definition.Template
import SnippetGrader.Proofs.Printout
import SnippetGrader.Proofs.Renaming.Values
import SnippetGrader.Proofs.Renaming.Trees
import SnippetGrader.Proofs.Renaming.Likeness
import SnippetGrader.Proofs.Operation.Simultaneous
import SnippetGrader.Proofs.Layout.Opening
import SnippetGrader.Proofs.Grading.Detection
import SnippetGrader.Proofs.Comprehension.Calls
import SnippetGrader.Proofs.Comprehension.Mapping
import SnippetGrader.Proofs.Grading.Comparison
import SnippetGrader.Proofs.Binding
import SnippetGrader.Proofs.Written.Template
import SnippetGrader.Proofs.Looping.Rounds
import SnippetGrader.Proofs.Looping.Warnings
import SnippetGrader.Proofs.Grading.Rules
import SnippetGrader.Proofs.Refusal
import SnippetGrader.Proofs.Layout.Cutting
import SnippetGrader.Proofs.Layout.Coverage
import SnippetGrader.Proofs.Making
import SnippetGrader.Proofs.Layout.Nesting
import SnippetGrader.Proofs.Scanning.Closing
import SnippetGrader.Proofs.Scanning.Comment
import SnippetGrader.Proofs.Scanning.Splitting
import SnippetGrader.Proofs.Scanning.Symbols
import SnippetGrader.Proofs.Sorting
import SnippetGrader.Proofs.Closure.Basic
import SnippetGrader.Proofs.Closure.Value
import SnippetGrader.Proofs.Closure.Builtin
import SnippetGrader.Proofs.Closure.Expression
import SnippetGrader.Proofs.Closure.Statement
import SnippetGrader.Proofs.Closure.Run
