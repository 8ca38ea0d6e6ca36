import ManifestOwnership.Establish
import ManifestOwnership.Store.Scripted
import ManifestOwnership.Log.Line
import ManifestOwnership.Settings.Environment
import ManifestOwnership.Cluster.LiveStore
import ManifestOwnership.Cluster.Directory
import ManifestOwnership.Cluster.Connection
import ManifestOwnership.Template
import ManifestOwnership.Proofs.Value.Equality
import ManifestOwnership.Proofs.Manifest.Metadata
import ManifestOwnership.Proofs.Value.Path
import ManifestOwnership.Proofs.Webhook.Injection
import ManifestOwnership.Proofs.OwnerReference.Codec
import ManifestOwnership.Proofs.OwnerReference.Merge
import ManifestOwnership.Proofs.Store.Content
import ManifestOwnership.Proofs.Store.Write
import ManifestOwnership.Proofs.Store.Reachable
import ManifestOwnership.Proofs.Store.Reply
import ManifestOwnership.Proofs.Play
import ManifestOwnership.Proofs.Establish.Preparation
import ManifestOwnership.Proofs.Faults
import ManifestOwnership.Proofs.Establish.Step
import ManifestOwnership.Proofs.Establish.Effect
import ManifestOwnership.Proofs.Establish.Run
import ManifestOwnership.Proofs.Establish.Convergence
import ManifestOwnership.Proofs.Establish.ControlPass
import ManifestOwnership.Proofs.Establish.Requests
import ManifestOwnership.Proofs.Establish.Interleaving
import ManifestOwnership.Proofs.Establish.Handover
import ManifestOwnership.Proofs.Store.Wrapped
import ManifestOwnership.Proofs.Establish.Protocol
import ManifestOwnership.Proofs.Establish.Bundle
import ManifestOwnership.Proofs.Establish.Conversion
import ManifestOwnership.Proofs.Establish.Compliance
import ManifestOwnership.Proofs.Manifest.WellFormed
import ManifestOwnership.Proofs.Establish.Acceptance
import ManifestOwnership.Proofs.Establish.Failure
import ManifestOwnership.Proofs.Store.Course
import ManifestOwnership.Proofs.Establish.Ownership
import ManifestOwnership.Proofs.Establish.Identity
import ManifestOwnership.Proofs.Establish.Order
import ManifestOwnership.Proofs.Store.Optimistic
import ManifestOwnership.Proofs.Store.Refusal
import ManifestOwnership.Proofs.Store.Lifetime
import ManifestOwnership.Proofs.Store.LookUp
import ManifestOwnership.Proofs.Establish.Secret
import ManifestOwnership.Proofs.Establish.References
import ManifestOwnership.Proofs.Establish.Rollover
import ManifestOwnership.Proofs.Establish.Authority
import ManifestOwnership.Proofs.OwnerReference.Twins
import ManifestOwnership.Proofs.Text.Base64
import ManifestOwnership.Proofs.Value.Overwrite
import ManifestOwnership.Proofs.Webhook.Kind
import ManifestOwnership.Proofs.Webhook.Filling
import ManifestOwnership.Proofs.Webhook.Rotation
import ManifestOwnership.Proofs.Webhook.Bundles
import ManifestOwnership.Proofs.Establish.Certificate
import ManifestOwnership.Proofs.OwnerReference.Laws
import ManifestOwnership.Proofs.OwnerReference.Steps
import ManifestOwnership.Proofs.OwnerReference.RoundTrip
import ManifestOwnership.Proofs.Revision.Package
import ManifestOwnership.Proofs.Webhook.Naming
import ManifestOwnership.Proofs.Cluster.LiveStore
import ManifestOwnership.Proofs.Cluster.Absence
import ManifestOwnership.Proofs.Settings.Environment
import ManifestOwnership.Proofs.Value.Access
import ManifestOwnership.Proofs.Settings.Reading
import ManifestOwnership.Proofs.Log.Identity
import ManifestOwnership.Proofs.Text.Digit
import ManifestOwnership.Proofs.Number.Numeral
import ManifestOwnership.Proofs.Settings.Override
import ManifestOwnership.Proofs.Value.Blocked
