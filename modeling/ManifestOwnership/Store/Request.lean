import ManifestOwnership.Manifest

/-! # Requests to an object store

A store reads and writes single objects by identity. Reading an object that does not exist is the
fault `Problem.objectMissing`; every other fault is the store's own.
-/

namespace ManifestOwnership.Store

/-- A request to an object store. -/
inductive Request where
  /-- Reads an object. -/
  | get (apiVersion kind name scope : Value)
  /-- Writes an object that must not exist yet. -/
  | create (definition : Value)
  /-- Replaces an object. -/
  | update (definition : Value)

namespace Request

def isWrite : Request → Bool
  | get _ _ _ _ => false
  | create _ => true
  | update _ => true

/-- A field of an object if there is one, and null otherwise. -/
def fieldOrNull (name : String) (value : Value) : Value :=
  match value with
  | .object fields => Fields.get fields name
  | _ => .null

def kind : Request → Value
  | get _ kind _ _ => kind
  | create definition => fieldOrNull "kind" definition
  | update definition => fieldOrNull "kind" definition

def name : Request → Value
  | get _ _ name _ => name
  | create definition => fieldOrNull "name" (fieldOrNull "metadata" definition)
  | update definition => fieldOrNull "name" (fieldOrNull "metadata" definition)

end Request

end ManifestOwnership.Store
