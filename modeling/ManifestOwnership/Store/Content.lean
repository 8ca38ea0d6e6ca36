import ManifestOwnership.Value

/-! # The content of an object store

A store in memory files its objects under four levels: the namespace, the kind, the API version and
the name. Each level is an ordered mapping whose keys are values as they stand in manifests. Values
that are equal are one key, and a value that holds others is none.
-/

namespace ManifestOwnership.Store

/-- What tells the objects of a store apart. The scope is the namespace, null for none. -/
structure ObjectKey where
  scope : Value
  kind : Value
  apiVersion : Value
  name : Value

namespace ObjectKey

/-- The key made of an identity; a namespace that does not count as given is none. -/
def of (scope kind apiVersion name : Value) : Except Fault ObjectKey := do
  return ⟨← (if scope.truthy then scope else .null).asKey, ← kind.asKey, ← apiVersion.asKey,
    ← name.asKey⟩

def ofManifest (definition : Value) : Except Fault ObjectKey := do
  let metadata ← definition.fieldOrEmpty "metadata"
  of (← metadata.field "namespace") (← definition.field "kind") (← definition.field "apiVersion")
    (← metadata.field "name")

def sameScope (first second : ObjectKey) : Bool :=
  first.scope.same second.scope

def sameKind (first second : ObjectKey) : Bool :=
  first.sameScope second && first.kind.same second.kind

def sameGroup (first second : ObjectKey) : Bool :=
  first.sameKind second && first.apiVersion.same second.apiVersion

def same (first second : ObjectKey) : Bool :=
  first.sameGroup second && first.name.same second.name

end ObjectKey

/-- A mapping from values, in the order in which its keys were first put there. -/
abbrev Level (α : Type) := List (Value × α)

namespace Level

variable {α : Type}

def get? (level : Level α) (key : Value) : Option α :=
  (level.find? fun row => row.1.same key).map (·.2)

def put (level : Level α) (key : Value) (new : α) : Level α :=
  if level.any fun row => row.1.same key then
    level.map fun row => if row.1.same key then (row.1, new) else row
  else level ++ [(key, new)]

/-- Works on what stands under a key, which is put there first if there is nothing. -/
def within (key : Value) (fresh : α) (work : α → Except Fault Unit × α) (level : Level α) :
    Except Fault Unit × Level α :=
  match key.asKey with
  | .error fault => (.error fault, level)
  | .ok key =>
    let (outcome, after) := work ((level.get? key).getD fresh)
    (outcome, level.put key after)

end Level

/-- Objects by namespace, kind, API version and name. -/
abbrev Content := Level (Level (Level (Level Value)))

namespace Content

def find? (content : Content) (key : ObjectKey) : Option Value := do
  let kinds ← content.get? key.scope
  let versions ← kinds.get? key.kind
  let names ← versions.get? key.apiVersion
  names.get? key.name

/-- Files an object level by level. One level is opened before it is seen whether the next can
be. -/
def file (scope kind apiVersion name object : Value) : Content → Except Fault Unit × Content :=
  Level.within (scope.orElse .null) [] <| Level.within kind [] <| Level.within apiVersion [] <|
    Level.within name object fun _ => (.ok (), object)

/-- Every object with the keys under which it stands. -/
def entries (content : Content) : List (ObjectKey × Value) :=
  content.flatMap fun (scope, kinds) => kinds.flatMap fun (kind, versions) =>
    versions.flatMap fun (apiVersion, names) => names.map fun (name, object) =>
      (⟨scope, kind, apiVersion, name⟩, object)

/-- Every object, grouped by namespace, kind and API version. -/
def objects (content : Content) : List Value :=
  content.entries.map (·.2)

end Content

end ManifestOwnership.Store
