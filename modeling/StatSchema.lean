import StatSchema.Name
import StatSchema.Identifier
import StatSchema.Compiled
import StatSchema.Definition.Expansion
import StatSchema.Main
import StatSchema.Decimal.Shortest
import StatSchema.Amount
import StatSchema.Evaluation
import StatSchema.Record
import StatSchema.Text.Shape
import StatSchema.LabelledCount
import StatSchema.Session
import StatSchema.Proofs.Order.Completion
import StatSchema.Proofs.Order.Dependency
import StatSchema.Proofs.Canonical
import StatSchema.Proofs.Spelling
import StatSchema.Proofs.Schema.Checks
import StatSchema.Proofs.Schema.Entries
import StatSchema.Proofs.Schema.WellFormed
import StatSchema.Proofs.Artifact.Layout
import StatSchema.Proofs.Artifact.Identifiers
import StatSchema.Proofs.Session.Attribution
import StatSchema.Proofs.Artifact.Execution
import StatSchema.Proofs.Artifact.Wiring
import StatSchema.Proofs.Artifact.Calls
import StatSchema.Proofs.Session.Aggregation
import StatSchema.Proofs.Session.Distribution
import StatSchema.Proofs.Expression.Outcomes
import StatSchema.Proofs.Expression.Evaluation
import StatSchema.Proofs.Expression.Reading
import StatSchema.Proofs.Artifact.Accessors
import StatSchema.Proofs.Artifact.Aggregation
import StatSchema.Proofs.Expression.Compounds
import StatSchema.Proofs.Session.Toggle
import StatSchema.Proofs.Artifact.Reactions
import StatSchema.Proofs.Definition.Grammar
import StatSchema.Proofs.Definition.Reading
import StatSchema.Proofs.Definition.Settings
import StatSchema.Proofs.Definition.Meaning
import StatSchema.Proofs.Quotation
import StatSchema.Proofs.Artifact.Promises
import StatSchema.Proofs.Artifact.Overriding
import StatSchema.Proofs.Notation.PlainPath
import StatSchema.Proofs.Notation.Outline
import StatSchema.Proofs.Notation.Tokens
import StatSchema.Proofs.Notation.Document
import StatSchema.Proofs.Notation.Agreement
import StatSchema.Proofs.Order.Cycle
import StatSchema.Proofs.Artifact.Recursion
import StatSchema.Proofs.Artifact.Gating
import StatSchema.Proofs.Configuration.Meaning
import StatSchema.Proofs.Configuration.Writing
import StatSchema.Proofs.Artifact.Typing
import StatSchema.Proofs.Artifact.ZeroDivision
import StatSchema.Proofs.Assertion.Compilation
import StatSchema.Proofs.Schema.Orders
import StatSchema.Proofs.Printing.Arguments
import StatSchema.Proofs.Printing.Artifacts
import StatSchema.Proofs.Printing.Emission
import StatSchema.Proofs.Artifact.Assembly
import StatSchema.Proofs.Schema.Extension
import StatSchema.Proofs.Artifact.Extension
import StatSchema.Proofs.Artifact.Rearrangement
import StatSchema.Proofs.Session.Extension
import StatSchema.Proofs.Report.Formats
import StatSchema.Proofs.Report.Reading
import StatSchema.Proofs.Report.Layout
import StatSchema.Proofs.Report.Injectivity
import StatSchema.Proofs.Definition.Places
import StatSchema.Proofs.Expression.Linearity
import StatSchema.Proofs.Expression.Unfolding
import StatSchema.Proofs.Schema.Subjects
import StatSchema.Proofs.Artifact.Linearity
import StatSchema.Proofs.Case
import StatSchema.Proofs.Artifact.Functions
