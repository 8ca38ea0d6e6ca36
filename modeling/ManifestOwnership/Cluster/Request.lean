import ManifestOwnership.Interaction

/-! # Requests to a cluster

What a store asks of a live cluster. A kind is looked up first, by its name or by a short name, and
the resource found is then used to read, create or replace single objects. A request that is given
no timeout may take any time.
-/

namespace ManifestOwnership.Cluster

/-- A request to a cluster. -/
inductive Request where
  /-- Looks up the resource of a kind. -/
  | findKind (apiVersion kind : Value)
  /-- Looks up the resource of a short name. -/
  | findShortName (apiVersion name : Value)
  /-- Reads an object of a resource. -/
  | get (resource name scope : Value) (timeout : Option Value)
  /-- Creates an object of a resource. -/
  | create (resource body scope : Value) (timeout : Option Value)
  /-- Replaces an object of a resource. -/
  | replace (resource body name scope : Value) (timeout : Option Value)

def Request.isLookup : Request → Bool
  | findKind _ _ => true
  | findShortName _ _ => true
  | _ => false

end ManifestOwnership.Cluster
