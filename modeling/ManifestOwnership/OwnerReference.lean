import ManifestOwnership.Value

/-! # Owner references

An entry of an object's list of owners. The key of a reference is what it points at; the two flags
say how. A flag that is null is not set, and the written form leaves it out.
-/

namespace ManifestOwnership

/-- A reference from an object to one of its owners. -/
structure OwnerReference where
  apiVersion : Value
  kind : Value
  name : Value
  uid : Value
  controller : Value
  blockOwnerDeletion : Value
  deriving Inhabited

namespace OwnerReference

def empty : OwnerReference :=
  ⟨.text "", .text "", .text "", .text "", .null, .null⟩

def key (ref : OwnerReference) : List Value :=
  [ref.apiVersion, ref.kind, ref.name, ref.uid]

/-- Whether two references point at the same owner. -/
def sameKey (first second : OwnerReference) : Bool :=
  Value.sameItems first.key second.key

def isController (ref : OwnerReference) : Bool :=
  ref.controller.truthy

def ofValue (value : Value) : Except Fault OwnerReference := do
  let fields ← value.fields
  let word (name : String) : Value := (Fields.get fields name).orElse (.text "")
  return ⟨word "apiVersion", word "kind", word "name", word "uid",
    Fields.get fields "controller", Fields.get fields "blockOwnerDeletion"⟩

/-- A flag as a field of the written form, no field if it is not set. -/
def flagField (name : String) (flag : Value) : Fields :=
  if flag.isNull then [] else [(name, flag)]

def toValue (ref : OwnerReference) : Value :=
  .object ([("apiVersion", ref.apiVersion), ("kind", ref.kind), ("name", ref.name),
    ("uid", ref.uid)] ++ flagField "controller" ref.controller ++
    flagField "blockOwnerDeletion" ref.blockOwnerDeletion)

/-- The reference as a mere owner, which must not go before the object. -/
def asOwner (ref : OwnerReference) : OwnerReference :=
  { ref with controller := .bool false, blockOwnerDeletion := .bool true }

/-- The reference as the controller, which must not go before the object. -/
def asController (ref : OwnerReference) : OwnerReference :=
  { ref with controller := .bool true, blockOwnerDeletion := .bool true }

def released (ref : OwnerReference) : OwnerReference :=
  { ref with controller := .bool false }

end OwnerReference

namespace Manifest

def owners (definition : Value) : Except Fault (List OwnerReference) := do
  let metadata ← definition.fieldOrEmpty "metadata"
  let written ← metadata.field "ownerReferences"
  let entries ← written.givenElements
  entries.mapM OwnerReference.ofValue

def setOwners (refs : List OwnerReference) (definition : Value) : Except Fault Value := do
  let metadata ← definition.field "metadata"
  let owned ← (if metadata.isNull then .object [] else metadata).setField "ownerReferences"
    (.list (refs.map OwnerReference.toValue))
  definition.setField "metadata" owned

end Manifest

end ManifestOwnership
