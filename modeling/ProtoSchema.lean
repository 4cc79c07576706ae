import ProtoSchema.Main
import ProtoSchema.Proofs.Generation.Acceptance
import ProtoSchema.Proofs.Generation.Activations
import ProtoSchema.Proofs.Generation.Locality
import ProtoSchema.Proofs.Generation.WellFormed
import ProtoSchema.Proofs.Pattern.Preservation
import ProtoSchema.Proofs.Descriptor.Consistency
import ProtoSchema.Proofs.Generation.Structure
import ProtoSchema.Proofs.Program.Path
import ProtoSchema.Proofs.Program.Rendering
import ProtoSchema.Proofs.Generation.SharedTypes
import ProtoSchema.Proofs.Constraint.Keys
import ProtoSchema.Proofs.Generation.Strings
import ProtoSchema.Proofs.Pattern.CaseFolding
import ProtoSchema.Proofs.Generation.Numbers
import ProtoSchema.Proofs.Generation.EnumNames
import ProtoSchema.Proofs.Generation.TypeLists
import ProtoSchema.Proofs.Generation.Defaults
import ProtoSchema.Proofs.Time.Digits
import ProtoSchema.Proofs.Time.Duration
import ProtoSchema.Proofs.Generation.Durations
import ProtoSchema.Proofs.Time.Calendar
import ProtoSchema.Proofs.Time.Timestamp
import ProtoSchema.Proofs.Pattern.Scope
import ProtoSchema.Proofs.Pattern.Quoting
import ProtoSchema.Proofs.Pattern.Refusal
import ProtoSchema.Proofs.Generation.Breadcrumbs
import ProtoSchema.Proofs.Descriptor.JsonName
import ProtoSchema.Proofs.Constraint.RuleSets
import ProtoSchema.Proofs.Schema.Recovery
import ProtoSchema.Proofs.Schema.Draft07
