import ManifestOwnership.Cluster.Request
import ManifestOwnership.Store.Request
import ManifestOwnership.Settings

/-! # The object store of a live cluster

How a live cluster serves the requests to an object store. The kind of an object is looked up by
its name and, if that does not find exactly one, as a short name. Reading says that an object is
missing if the second lookup fails as well or the cluster has no such object; every other fault
passes unchanged.
-/

namespace ManifestOwnership.Cluster

/-- A store backed by a live cluster, with the time allowed per request. -/
structure LiveStore where
  timeout : Value

namespace LiveStore

/-- A store whose timeout, if not given, comes from the settings. -/
def make (settings : Settings) (timeout : Value) : LiveStore :=
  ⟨if timeout.isNull then settings.value .requestTimeout else timeout⟩

def bound (store : LiveStore) : Option Value :=
  if store.timeout.isNull then none else some store.timeout

/-- Looks up the resource of a kind, which may also be a short name. -/
def find (apiVersion kind : Value) : Interaction Request Value Value :=
  .request (.findKind apiVersion kind) fun
    | .ok resource => .done resource
    | .error fault =>
      if fault.isLookup then .ask (.findShortName apiVersion kind) else .fail fault

/-- A namespace as the cluster expects it, null for none. -/
def scopeOf (scope : Value) : Value :=
  scope.orElse .null

/-- The problem that an object does not exist, for the fault that showed it. -/
def missing (message : String) (cause : Fault) : Fault :=
  .consequence .objectMissing message cause

def get (store : LiveStore) (apiVersion kind name scope : Value) :
    Interaction Request Value Value := do
  match ← (find apiVersion kind).attempt with
  | .error fault =>
    if fault.isLookup then
      .fail (missing ("kind " ++ apiVersion.display ++ "/" ++ kind.display ++
        " is not served by the cluster") fault)
    else .fail fault
  | .ok resource =>
    match ← Interaction.tryAsk (.get resource name (scopeOf scope) store.bound) with
    | .ok object => return object
    | .error (.refused .notFound status reason) =>
      .fail (missing ((scope.orElse (.text "")).display ++ "/" ++ apiVersion.display ++ "/" ++
        kind.display ++ "/" ++ name.display ++ " not found") (.refused .notFound status reason))
    | .error fault => .fail fault

/-- The resource, the namespace and the name for writing an object. -/
def resolve (definition : Value) : Interaction Request Value (Value × Value × Value) := do
  let metadata ← definition.fieldOrEmpty "metadata"
  let kind ← definition.field "kind"
  let apiVersion ← definition.field "apiVersion"
  let resource ← find apiVersion kind
  let scope ← metadata.field "namespace"
  let name ← metadata.field "name"
  return (resource, scopeOf scope, name)

/-- Serves a request to an object store by requests to the cluster. -/
def serve (store : LiveStore) : Store.Request → Interaction Request Value Value
  | .get apiVersion kind name scope => store.get apiVersion kind name scope
  | .create definition => do
    let (resource, scope, _) ← resolve definition
    Interaction.ask (.create resource definition scope store.bound)
  | .update definition => do
    let (resource, scope, name) ← resolve definition
    Interaction.ask (.replace resource definition name scope store.bound)

end LiveStore

end ManifestOwnership.Cluster
