import ManifestOwnership.Webhook.Kind
import ManifestOwnership.Revision.Package
import ManifestOwnership.Text.LowerCase

/-! # Names of webhook configurations

A webhook configuration is established under a name derived from the package that owns the
revision, so that every revision of the package meets the same object. Every other object, and one
whose package is not found, keeps its declared name.
-/

namespace ManifestOwnership.Webhook

/-- The name a manifest is established under, with the reason for it. -/
inductive Naming where
  /-- The manifest is no webhook configuration. -/
  | ordinary (declared : Value)
  /-- The package of the revision is not found. -/
  | kept (declared : Value) (search : PackageSearch)
  /-- The name comes from the package. -/
  | derived (declared : Value) (name : String)

namespace Naming

def name : Naming → Value
  | ordinary declared => declared
  | kept declared _ => declared
  | derived _ name => .text name

/-- The name built from a lead and the package's reference, whose kind must be a text. -/
def build (lead : Value) (package : OwnerReference) : Except Fault String :=
  match package.kind with
  | .text kind =>
    .ok (lead.display ++ "-" ++ Text.lowerCase kind ++ "-" ++ package.name.display)
  | _ => .error .lacksOperation

/-- The naming of a manifest that a revision declares. The lead of derived names and the label of
the package are taken from the settings if they are not given. -/
def run (settings : Settings) (lead label definition revision : Value) : Except Fault Naming := do
  let metadata ← definition.fieldOrEmpty "metadata"
  let declared ← metadata.field "name"
  if !(← isConfiguration definition) then return ordinary declared
  let search ← PackageSearch.run settings label revision
  match search with
  | .found package =>
    let lead := lead.orElse (settings.value .webhookNamePrefix)
    return derived declared (← build lead package)
  | _ => return kept declared search

end Naming

end ManifestOwnership.Webhook
