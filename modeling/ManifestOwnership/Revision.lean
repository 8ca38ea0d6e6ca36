import ManifestOwnership.Manifest
import ManifestOwnership.OwnerReference

/-! # Package revisions

The revision that owns a set of declared objects, as a view of its manifest. A manifest that is no
object, or whose metadata is neither absent nor an object, is no revision.
-/

namespace ManifestOwnership

/-- A revision: its manifest and what is read off it. -/
structure Revision where
  definition : Value
  kind : Value
  apiVersion : Value
  metadata : Value
  name : Value
  scope : Value
  uid : Value
  deriving Inhabited

namespace Revision

def ofManifest (definition : Value) : Except Fault Revision := do
  let kind ← definition.field "kind"
  let apiVersion ← definition.field "apiVersion"
  let metadata ← definition.fieldOrEmpty "metadata"
  let name ← metadata.field "name"
  let scope ← metadata.field "namespace"
  let uid ← metadata.field "uid"
  return { definition, kind, apiVersion, metadata, name, scope, uid }

def labels (revision : Revision) : Except Fault Value :=
  revision.metadata.fieldOrEmpty "labels"

def owners (revision : Revision) : Except Fault (List OwnerReference) :=
  Manifest.owners revision.definition

/-- Where a revision names the secret with its webhook TLS material. -/
def secretNamePath : Path :=
  ⟨["spec"], "webhookTLSSecretName"⟩

/-- The name of the secret with the webhook TLS material, null if there is none. -/
def secretName (revision : Revision) : Except Fault Value :=
  revision.definition.atOr secretNamePath .null

/-- A reference to the revision, with no flag set. -/
def reference (revision : Revision) : OwnerReference :=
  { apiVersion := revision.apiVersion.orElse (.text "")
    kind := revision.kind.orElse (.text "")
    name := revision.name.orElse (.text "")
    uid := revision.uid.orElse (.text "")
    controller := .null
    blockOwnerDeletion := .null }

def display (revision : Revision) : String :=
  revision.apiVersion.display ++ "/" ++ revision.kind.display ++ "/" ++ revision.name.display

end Revision

end ManifestOwnership
