import ManifestOwnership.Store.Content
import ManifestOwnership.Store.Request
import ManifestOwnership.Interaction

/-! # The object store in memory

A store that holds its objects itself, keyed by identity. It fills in the metadata that a cluster
manages: an object keeps the uid and the creation time it first got, and every write counts the
resource version up. A strict store refuses an update that was made from an older version.
-/

namespace ManifestOwnership.Store

/-- Where a store takes new uids and times from: the first, second, … of each, none of them
empty. -/
structure Issuer where
  uid : Nat → String
  time : Nat → String
  uid_ne_empty (n : Nat) : uid n ≠ ""
  time_ne_empty (n : Nat) : time n ≠ ""

/-- A store in memory, with counts of the versions, uids and times it has given out. -/
structure Memory where
  content : Content
  strict : Bool
  versions : Nat
  uids : Nat
  times : Nat

namespace Memory

def empty (strict : Bool) : Memory :=
  ⟨[], strict, 0, 0, 0⟩

def find? (memory : Memory) (key : ObjectKey) : Option Value :=
  memory.content.find? key

def objects (memory : Memory) : List Value :=
  memory.content.objects

/-- Work on a store. It changes the store as it goes, so what is done before a fault stays done. -/
abbrev Work (α : Type) := ExceptT Fault (StateM Memory) α

/-- What work on a store comes to, and the store that it leaves. -/
def Work.on {α : Type} (work : Work α) (memory : Memory) : Except Fault α × Memory :=
  work.run.run memory

@[simp] theorem Work.on_pure {α : Type} (a : α) (memory : Memory) :
    (pure a : Work α).on memory = (.ok a, memory) := rfl

@[simp] theorem Work.on_lift {α : Type} (given : Except Fault α) (memory : Memory) :
    (liftM given : Work α).on memory = (given, memory) := rfl

@[simp] theorem Work.on_throw {α : Type} (fault : Fault) (memory : Memory) :
    (throw fault : Work α).on memory = (.error fault, memory) := rfl

@[simp] theorem Work.on_getThe (memory : Memory) :
    (getThe Memory : Work Memory).on memory = (.ok memory, memory) := rfl

/-- Work goes on from the store that the work before it leaves; a fault ends it there. -/
theorem Work.on_bind {α β : Type} (first : Work α) (next : α → Work β) (memory : Memory) :
    (first >>= next).on memory =
      match first.on memory with
      | (.ok a, after) => (next a).on after
      | (.error fault, after) => (.error fault, after) := by
  simp only [on, ExceptT.run_bind, StateT.run_bind]
  rcases first.run.run memory with ⟨_ | _, _⟩ <;> rfl

def nextTime (issuer : Issuer) : Work Value :=
  modifyGet fun memory =>
    let times := memory.times + 1
    (.text (issuer.time times), { memory with times })

def nextUid (issuer : Issuer) : Work Value :=
  modifyGet fun memory =>
    let uids := memory.uids + 1
    (.text (issuer.uid uids), { memory with uids })

def nextVersion : Work Value :=
  modifyGet fun memory =>
    let versions := memory.versions + 1
    (.text (toString versions), { memory with versions })

/-- A managed field after a write: as it is on the previous object, or else as it is given, or else
the next new value. -/
def manage (name : String) (previous : Fields) (metadata : Value) (next : Work Value) :
    Work Value := do
  let before := Fields.get previous name
  if before.truthy then return before
  let own ← metadata.field name
  if own.truthy then return own else next

/-- The metadata of a previous object, none if there is no previous object. -/
def previousMetadata (previous : Option Value) : Fields :=
  match previous with
  | some (.object fields) =>
    match Fields.get fields "metadata" with
    | .object metadata => metadata
    | _ => []
  | _ => []

/-- Fills in the fields of the metadata that the store manages. -/
def fill (issuer : Issuer) (previous : Fields) (metadata : Value) : Work Value := do
  let created ← manage "creationTimestamp" previous metadata (nextTime issuer)
  let metadata ← metadata.setField "creationTimestamp" created
  let uid ← manage "uid" previous metadata (nextUid issuer)
  let metadata ← metadata.setField "uid" uid
  let version ← nextVersion
  metadata.setField "resourceVersion" version

def file (scope kind apiVersion name object : Value) : Work Unit :=
  ExceptT.mk <| modifyGet fun memory =>
    let (outcome, content) := memory.content.file scope kind apiVersion name object
    (outcome, { memory with content })

/-- Stores an object under its identity, with the metadata that the store manages. -/
def put (issuer : Issuer) (previous : Option Value) (resource : Value) : Work Value := do
  let fields ← resource.fields
  let metadata ← fill issuer (previousMetadata previous)
    ((Fields.get? fields "metadata").getD (.object []))
  let stored := Value.object (Fields.set fields "metadata" metadata)
  file (← metadata.field "namespace") (← stored.field "kind") (← stored.field "apiVersion")
    (← metadata.field "name") stored
  return stored

/-- A store that holds the given objects from the start. -/
def ofResources (issuer : Issuer) (strict : Bool) (resources : List Value) : Except Fault Memory :=
  resources.foldlM (fun memory resource =>
    let (reply, after) := (put issuer none resource).on memory
    reply.map fun _ => after) (empty strict)

def get (memory : Memory) (apiVersion kind name scope : Value) : Except Fault Value := do
  let key ← ObjectKey.of scope kind apiVersion name
  match memory.find? key with
  | some object => return object
  | none =>
    throw (.problem .objectMissing ((scope.orElse (.text "")).display ++ "/" ++
      apiVersion.display ++ "/" ++ kind.display ++ "/" ++ name.display ++ " not found"))

def create (issuer : Issuer) (identity : String) (definition : Value) : Work Value := do
  let key ← ObjectKey.ofManifest definition
  if ((← getThe Memory).find? key).isSome then
    throw (.problem .objectExists (identity ++ " already exists"))
  put issuer none definition

/-- Whether a strict store refuses an update that asks for a version, given the current one. -/
def isOutdated (memory : Memory) (requested current : Value) : Bool :=
  memory.strict && requested.truthy && !requested.same current

def versionOf (object : Value) : Value :=
  Request.fieldOrNull "resourceVersion" (Request.fieldOrNull "metadata" object)

/-- The object that an update replaces: it must exist, and a strict store reports a version that is
not the one asked for. -/
def replaced (identity : String) (definition : Value) (memory : Memory) : Log.Reported Value := do
  let key ← ObjectKey.ofManifest definition
  match memory.find? key with
  | none => .fail (.problem .objectMissing (identity ++ " not found"))
  | some current =>
    let metadata ← definition.fieldOrEmpty "metadata"
    let requested ← metadata.field "resourceVersion"
    let version := versionOf current
    if memory.isOutdated requested version then
      Log.Reported.tell [Log.event .dryRun .warning
        ("Unable to update [" ++ identity ++ "]. resourceVersion is out of date")]
      .fail (.problem .objectConflict (identity ++ " has resourceVersion " ++ version.display ++
        ", not " ++ requested.display))
    else return current

def update (issuer : Issuer) (identity : String) (definition : Value) : Work Value := do
  let current ← ((← getThe Memory).replaced identity definition).outcome
  put issuer (some current) definition

def answer (issuer : Issuer) (memory : Memory) : Request → Interaction.Answer Memory Value
  | .get apiVersion kind name scope =>
    let event := Log.event .dryRun .debug ("DRY RUN get [" ++ apiVersion.display ++ "/" ++
      kind.display ++ "/" ++ name.display ++ "] in [" ++ scope.display ++ "]")
    ⟨memory, memory.get apiVersion kind name scope, [event]⟩
  | .create definition =>
    match Manifest.identity definition with
    | .error fault => ⟨memory, .error fault, []⟩
    | .ok identity =>
      let (reply, after) := (create issuer identity definition).on memory
      ⟨after, reply, [Log.event .dryRun .debug ("DRY RUN create [" ++ identity ++ "]")]⟩
  | .update definition =>
    match Manifest.identity definition with
    | .error fault => ⟨memory, .error fault, []⟩
    | .ok identity =>
      let (reply, after) := (update issuer identity definition).on memory
      ⟨after, reply, Log.event .dryRun .debug ("DRY RUN update [" ++ identity ++ "]") ::
        (memory.replaced identity definition).events⟩

/-- Whether an object has the fields of an identity. A namespace that does not count as given is
none. -/
def isOf (apiVersion kind name scope object : Value) : Bool :=
  let metadata := Request.fieldOrNull "metadata" object
  (Request.fieldOrNull "apiVersion" object).equals apiVersion &&
    (Request.fieldOrNull "kind" object).equals kind &&
    (Request.fieldOrNull "name" metadata).equals name &&
    ((Request.fieldOrNull "namespace" metadata).orElse .null).equals (scope.orElse .null)

/-- Looks an object up by identity without asking the store. -/
def lookUp (memory : Memory) (apiVersion kind name scope : Value) : Option Value :=
  memory.objects.find? (isOf apiVersion kind name scope)

def has (memory : Memory) (apiVersion kind name scope : Value) : Bool :=
  (memory.lookUp apiVersion kind name scope).isSome

end Memory

end ManifestOwnership.Store
