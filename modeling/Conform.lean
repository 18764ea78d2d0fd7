import Conform.Pattern.Reader
import Conform.Proofs.AddedRules
import Conform.Proofs.Brevity
import Conform.Proofs.FieldOrder
import Conform.Proofs.FirstIssue
import Conform.Proofs.Flattening
import Conform.Proofs.Gating
import Conform.Proofs.Inputs
import Conform.Proofs.Intersection
import Conform.Proofs.KeyedRules
import Conform.Proofs.LeastForm
import Conform.Proofs.Location
import Conform.Proofs.NamesAgain
import Conform.Proofs.OwnCoercion
import Conform.Proofs.OwnMessage
import Conform.Proofs.Revalidation
import Conform.Proofs.Stripping
import Conform.Proofs.Synchronous
import Conform.Proofs.Unchanged
import Conform.Proofs.UniformFields
import Conform.Proofs.Widening
import Conform.Rule.Bounds
import Conform.Rule.Content
import Conform.Schema.Apply
import Conform.Schema.Build
import Conform.Value.Plain
