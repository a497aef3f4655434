import RecordMarkup.Mapping
import RecordMarkup.Proofs.Document.Attributes
import RecordMarkup.Proofs.Document.Audit
import RecordMarkup.Proofs.Document.Options
import RecordMarkup.Proofs.Document.Order
import RecordMarkup.Proofs.Document.References
import RecordMarkup.Proofs.Document.Strict
import RecordMarkup.Proofs.Logging.Configure
import RecordMarkup.Proofs.Number.FloatText
import RecordMarkup.Proofs.Outline.Preserved
import RecordMarkup.Proofs.Render.AttributeReading
import RecordMarkup.Proofs.Render.Escapes
import RecordMarkup.Proofs.Render.Mapped
import RecordMarkup.Proofs.Render.Outcome
import RecordMarkup.Proofs.Render.Renderable
