import Winnow.Argument.Basic
import Winnow.Argument.Document
import Winnow.Bookshelf
import Winnow.Condition.Aggregate
import Winnow.Condition.BuildError
import Winnow.Condition.Clause
import Winnow.Condition.Comparison
import Winnow.Condition.Junction
import Winnow.Condition.KeyPath
import Winnow.Condition.Modifier
import Winnow.Condition.Subquery
import Winnow.Condition.Template
import Winnow.Declaration.Basic
import Winnow.Declaration.Binding
import Winnow.Declaration.Entry
import Winnow.Declaration.Fault
import Winnow.Declaration.Implementation
import Winnow.Declaration.Paths
import Winnow.Declaration.Reader
import Winnow.Declaration.Source
import Winnow.Enumeration
import Winnow.Json.Basic
import Winnow.Json.Fraction
import Winnow.Json.Printer
import Winnow.Json.Reader
import Winnow.Lexeme.Basic
import Winnow.Lexeme.Index
import Winnow.Lexeme.Lexer
import Winnow.Lexeme.Literal
import Winnow.Lexeme.Reading
import Winnow.Number.Binary
import Winnow.Number.Layout
import Winnow.Number.Numeral
import Winnow.Number.Rounding
import Winnow.Number.Shortest
import Winnow.Phrase.Application
import Winnow.Phrase.Attribute
import Winnow.Phrase.Basic
import Winnow.Phrase.Bound
import Winnow.Phrase.Expression
import Winnow.Phrase.Function
import Winnow.Phrase.Generics
import Winnow.Phrase.Grammar
import Winnow.Phrase.Item
import Winnow.Phrase.Operator
import Winnow.Phrase.Path
import Winnow.Phrase.Pattern
import Winnow.Phrase.Statement
import Winnow.Phrase.Type
import Winnow.Predicate.Basic
import Winnow.Predicate.Evaluation
import Winnow.Predicate.Reader
import Winnow.Predicate.Relation
import Winnow.Predicate.Token
import Winnow.Predicate.Walk
import Winnow.Proofs.Argument.Integers
import Winnow.Proofs.Argument.Literals
import Winnow.Proofs.Argument.RoundTrip
import Winnow.Proofs.Condition.Composition
import Winnow.Proofs.Condition.Naming
import Winnow.Proofs.Condition.Rendering
import Winnow.Proofs.Declaration.Accessors
import Winnow.Proofs.Declaration.Clash
import Winnow.Proofs.Declaration.Code
import Winnow.Proofs.Declaration.Naming
import Winnow.Proofs.Declaration.Regrouping
import Winnow.Proofs.Declaration.Settings
import Winnow.Proofs.Declaration.Source
import Winnow.Proofs.Declaration.Variants
import Winnow.Proofs.Formula.Basic
import Winnow.Proofs.Formula.Building
import Winnow.Proofs.Formula.Comparing
import Winnow.Proofs.Formula.Extension
import Winnow.Proofs.Formula.Literals
import Winnow.Proofs.Formula.Membership
import Winnow.Proofs.Formula.Numbers
import Winnow.Proofs.Formula.Ordering
import Winnow.Proofs.Formula.Outline
import Winnow.Proofs.Formula.Paths
import Winnow.Proofs.Formula.Placeholders
import Winnow.Proofs.Formula.Quantified
import Winnow.Proofs.Formula.Questions
import Winnow.Proofs.Formula.Scoping
import Winnow.Proofs.Formula.Selection
import Winnow.Proofs.Formula.Texts
import Winnow.Proofs.Formula.Tokens
import Winnow.Proofs.Formula.Totals
import Winnow.Proofs.Formula.Translation
import Winnow.Proofs.Json.Reading
import Winnow.Proofs.Lexeme.Literal
import Winnow.Proofs.Number.Layout
import Winnow.Proofs.Number.Nearest
import Winnow.Proofs.Number.Numeral
import Winnow.Proofs.Number.Order
import Winnow.Proofs.Number.Rounding
import Winnow.Proofs.Number.Shortest
import Winnow.Proofs.Number.Widening
import Winnow.Proofs.Predicate.Alignment
import Winnow.Proofs.Predicate.Equality
import Winnow.Proofs.Predicate.Faults
import Winnow.Proofs.Predicate.Folding
import Winnow.Proofs.Predicate.Following
import Winnow.Proofs.Predicate.Letters
import Winnow.Proofs.Predicate.Losses
import Winnow.Proofs.Predicate.Order
import Winnow.Proofs.Predicate.Reading
import Winnow.Proofs.Predicate.Rounds
import Winnow.Proofs.Predicate.Scanning
import Winnow.Proofs.Predicate.Scope
import Winnow.Proofs.Query.Combination
import Winnow.Proofs.Query.Construction
import Winnow.Proofs.Query.Interchange
import Winnow.Proofs.Query.Junction
import Winnow.Proofs.Query.Modifiers
import Winnow.Proofs.Result
import Winnow.Proofs.Text.Identifier
import Winnow.Proofs.Text.Words
import Winnow.Query.Basic
import Winnow.Query.Inspection
import Winnow.Query.Plan
import Winnow.Query.Selection
import Winnow.Report.Building
import Winnow.Report.Settings
import Winnow.Text.Alphanumeric
import Winnow.Text.Blank
import Winnow.Text.Case
import Winnow.Text.Case.Tables
import Winnow.Text.Cluster
import Winnow.Text.Hexadecimal
import Winnow.Text.Identifier
import Winnow.Text.Printable
import Winnow.Text.Quoted
import Winnow.Text.Switches
import Winnow.Text.Words
import Winnow.Value
