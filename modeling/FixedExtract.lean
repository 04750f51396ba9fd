import FixedExtract.Text.Case
import FixedExtract.Text.Quoted
import FixedExtract.Decimal.Basic
import FixedExtract.Decimal.Arithmetic
import FixedExtract.Double
import FixedExtract.Calendar.Timestamp
import FixedExtract.Calendar.Pattern
import FixedExtract.Json.Reader
import FixedExtract.Json.Writer
import FixedExtract.Expression.Parser
import FixedExtract.Expression.Node
import FixedExtract.Expression.Evaluation
import FixedExtract.Layout.Rendering
import FixedExtract.Failure
import FixedExtract.Definition.Draft
import FixedExtract.Definition.Loading
import FixedExtract.Compiled.Failure
import FixedExtract.Yaml.Fault
import FixedExtract.Regex.Parser
import FixedExtract.Rule.Loading
import FixedExtract.Validation.Check
import FixedExtract.Validation.Report
import FixedExtract.Validation.Record
import FixedExtract.LogEntry
import FixedExtract.Service.Handler
import FixedExtract.Proofs.Compiled.RoundTrip
import FixedExtract.Proofs.Layout.Degradation
import FixedExtract.Proofs.Layout.Placement
import FixedExtract.Proofs.Definition.Handover
import FixedExtract.Proofs.Validation.Cache
import FixedExtract.Proofs.Validation.History
import FixedExtract.Proofs.Validation.Workers
import FixedExtract.Proofs.Expression.Composition
import FixedExtract.Proofs.Expression.References
import FixedExtract.Proofs.Validation.Counting
import FixedExtract.Proofs.Compiled.Faithful
import FixedExtract.Proofs.Definition.Reordering
import FixedExtract.Proofs.Layout.Choosing
import FixedExtract.Proofs.Calendar.Iso
import FixedExtract.Proofs.Calendar.Fraction
import FixedExtract.Proofs.Validation.Threshold
import FixedExtract.Proofs.Validation.Stopping
import FixedExtract.Proofs.Compiled.Several
import FixedExtract.Proofs.Definition.PartialReading
import FixedExtract.Proofs.Definition.Lifting
import FixedExtract.Proofs.Expression.Equivalent
import FixedExtract.Proofs.Expression.Negation
import FixedExtract.Proofs.Expression.Wildcard
import FixedExtract.Proofs.Layout.Extreme
import FixedExtract.Proofs.Validation.Column
import FixedExtract.Proofs.Validation.Range
import FixedExtract.Proofs.Compiled.Ending
import FixedExtract.Proofs.Rule.Ending
import FixedExtract.Proofs.Definition.Duplicates
import FixedExtract.Proofs.Definition.Covered
import FixedExtract.Proofs.Validation.Blank
import FixedExtract.Proofs.Validation.BlankPattern
import FixedExtract.Proofs.Expression.Refusing
import FixedExtract.Proofs.Validation.Classifying
import FixedExtract.Proofs.Layout.Preview
import FixedExtract.Proofs.Validation.Grouped
import FixedExtract.Proofs.Calendar.Shape
