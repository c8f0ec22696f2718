import RouteDoc.Text.Ranges
import RouteDoc.Text.Word
import RouteDoc.Text.Printable
import RouteDoc.Text.Identifier
import RouteDoc.Text.Digit
import RouteDoc.Text.Upper
import RouteDoc.Text.Blank
import RouteDoc.Text.Quoted
import RouteDoc.Text.Line
import RouteDoc.Number.Binary64
import RouteDoc.Number.Shortest
import RouteDoc.Number.Numeral
import RouteDoc.Entries
import RouteDoc.Json.Basic
import RouteDoc.Json.Literal
import RouteDoc.Json.Printer
import RouteDoc.Json.Reader
import RouteDoc.Tag.Basic
import RouteDoc.Tag.Reader
import RouteDoc.Tag.Constraint
import RouteDoc.Schema.Basic
import RouteDoc.Schema.Fault
import RouteDoc.Schema.Rule
import RouteDoc.Model.ClassName
import RouteDoc.Model.TypeExpr
import RouteDoc.Model.Catalog
import RouteDoc.Model.Descriptor
import RouteDoc.Schema.Synthesis
import RouteDoc.Parameter.Basic
import RouteDoc.Parameter.Extraction
import RouteDoc.Route.Comment
import RouteDoc.Document.Assembly
import RouteDoc.Schema.Checked
import RouteDoc.Parameter.Checked
import RouteDoc.Config.File
import RouteDoc.Document.Basic
import RouteDoc.Yaml.Printer
import RouteDoc.Yaml.Value
import RouteDoc.Source.Discovery
import RouteDoc.Command.Outcome
import RouteDoc.Main
import RouteDoc.Proofs.Schema.Composition
import RouteDoc.Proofs.Schema.Recursion
import RouteDoc.Proofs.Parameter.WellFormed
import RouteDoc.Proofs.Document.Assembly
import RouteDoc.Proofs.Document.Accepted
import RouteDoc.Proofs.Parameter.Agreement
import RouteDoc.Proofs.Json.Grammar
import RouteDoc.Proofs.Tag.Grammar
import RouteDoc.Proofs.Json.Encoding
import RouteDoc.Proofs.Tag.RoundTrip
import RouteDoc.Proofs.Json.Object
import RouteDoc.Proofs.Schema.Rendering
import RouteDoc.Proofs.Document.Rendering
import RouteDoc.Proofs.Parameter.Flattening
import RouteDoc.Proofs.Text.Blank
import RouteDoc.Proofs.Route.Directive
import RouteDoc.Proofs.Route.Annotation
import RouteDoc.Proofs.Number.Numeral
import RouteDoc.Proofs.Schema.Constraint
import RouteDoc.Proofs.Parameter.Constraint
import RouteDoc.Proofs.Parameter.Inlining
import RouteDoc.Proofs.Parameter.Respelling
import RouteDoc.Proofs.Route.Reading
import RouteDoc.Proofs.Source.Routes
import RouteDoc.Proofs.Parameter.Remark
import RouteDoc.Proofs.Document.Text
import RouteDoc.Proofs.Document.Conservation
import RouteDoc.Proofs.Parameter.Repetition
import RouteDoc.Proofs.Command.Generation
import RouteDoc.Proofs.Document.Path
import RouteDoc.Proofs.Tag.Regrouping
import RouteDoc.Proofs.Schema.Chain
import RouteDoc.Proofs.Route.Payload
import RouteDoc.Proofs.Source.Discovery
import RouteDoc.Proofs.Schema.Wrapping
import RouteDoc.Proofs.Source.Trailing
import RouteDoc.Proofs.Yaml.Reading
import RouteDoc.Proofs.Yaml.Fault
import RouteDoc.Proofs.Command.Loading
import RouteDoc.Proofs.Parameter.Decoration
import RouteDoc.Proofs.Source.Order
import RouteDoc.Proofs.Schema.Sample
import RouteDoc.Proofs.Parameter.Conclusion
