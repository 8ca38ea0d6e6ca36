import ManifestOwnership.OwnerReference
import ManifestOwnership.Value.Display

/-! # Merging owner references

How a parent joins the owners of an object. A reference with the parent's key is replaced where it
stands and otherwise the parent goes to the end. A parent that takes control is the only
controller afterwards: the others keep their place and lose the claim.
-/

namespace ManifestOwnership.OwnerReference

/-- Replaces each reference of the same key in place, or adds the reference at the end. -/
def join (ref : OwnerReference) (refs : List OwnerReference) : List OwnerReference :=
  let replaced := refs.map fun existing => if existing.sameKey ref then ref else existing
  if refs.any (·.sameKey ref) then replaced else replaced ++ [ref]

/-- Whether a reference has to give up control for another one to take it. -/
def yieldsTo (ref existing : OwnerReference) : Bool :=
  existing.isController && !existing.sameKey ref

/-- The references that lose control when another takes it. -/
def losers (ref : OwnerReference) (refs : List OwnerReference) : List OwnerReference :=
  refs.filter ref.yieldsTo

def takeControl (ref : OwnerReference) (refs : List OwnerReference) : List OwnerReference :=
  ref.asController.join
    (refs.map fun existing => if ref.yieldsTo existing then existing.released else existing)

/-- Merges a parent into the owners, as the controller or as a mere owner. -/
def merge (parent : OwnerReference) (control : Bool) (refs : List OwnerReference) :
    List OwnerReference :=
  if control then parent.takeControl refs else parent.asOwner.join refs

end ManifestOwnership.OwnerReference
