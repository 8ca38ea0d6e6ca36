import ManifestOwnership.Value.Path
import ManifestOwnership.Value.Display

/-! # Manifests

What the library reads off any manifest: its identity for people, its API group, and the reference
under which an established object is reported. A manifest is a value; nothing here assumes that it
is well formed.
-/

namespace ManifestOwnership

namespace Manifest

/-- The identity of a manifest in messages: the namespace if it has one, the API version, the kind
and the name. -/
def identity (definition : Value) : Except Fault String := do
  let metadata ← definition.fieldOrEmpty "metadata"
  let name ← metadata.field "name"
  let scope ← metadata.field "namespace"
  let apiVersion ← definition.field "apiVersion"
  let kind ← definition.field "kind"
  let shown := apiVersion.display ++ "/" ++ kind.display ++ "/" ++ name.display
  return if scope.truthy then scope.display ++ "/" ++ shown else shown

/-- The group of an API version, which is what stands before its first slash. The core group, which
has no slash, is empty. -/
def groupOf (apiVersion : Value) : Except Fault String :=
  if !apiVersion.truthy then .ok ""
  else match apiVersion with
    | .text s =>
      .ok (if s.toList.contains '/' then String.ofList (s.toList.takeWhile (· != '/')) else "")
    | .list items =>
      if items.any (Value.same (.text "/")) then .error .lacksOperation else .ok ""
    | .object fields =>
      if (fields.lookup "/").isSome then .error .lacksOperation else .ok ""
    | _ => .error .wrongType

end Manifest

/-- A reference to an established object. -/
structure TypedReference where
  apiVersion : Value
  kind : Value
  name : Value
  deriving Inhabited

namespace TypedReference

/-- The reference to the object that a manifest describes. -/
def ofManifest (definition : Value) : Except Fault TypedReference := do
  let metadata ← definition.fieldOrEmpty "metadata"
  let apiVersion ← definition.field "apiVersion"
  let kind ← definition.field "kind"
  let name ← metadata.field "name"
  return ⟨apiVersion.orElse (.text ""), kind.orElse (.text ""), name.orElse (.text "")⟩

def toValue (ref : TypedReference) : Value :=
  .object [("apiVersion", ref.apiVersion), ("kind", ref.kind), ("name", ref.name)]

end TypedReference

end ManifestOwnership
