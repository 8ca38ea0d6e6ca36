import ManifestOwnership.OwnerReference
import ManifestOwnership.Settings

/-! # The package of a revision

A revision names its package by a label, and the package is the first of its owners with that
name. The result of the search says which of the steps failed, so that a caller can report it.
-/

namespace ManifestOwnership

/-- How the search for a revision's package ended. -/
inductive PackageSearch where
  /-- The revision does not carry the label of the given name. -/
  | unlabelled (label : Value)
  /-- No owner has the name that the label gives. -/
  | unmatched (package : Value)
  /-- The first owner with that name. -/
  | found (reference : OwnerReference)

namespace PackageSearch

/-- The first owner entry with a name. -/
def firstNamed (package : Value) : List Value → Except Fault (Option OwnerReference)
  | [] => .ok none
  | entry :: rest => do
    let name ← entry.field "name"
    if name.equals package then return some (← OwnerReference.ofValue entry)
    firstNamed package rest

/-- Searches the package of a revision under a label; a label that is not given is taken from the
settings. -/
def run (settings : Settings) (label revision : Value) : Except Fault PackageSearch := do
  let label := label.orElse (settings.value .parentPackageLabel)
  let metadata ← revision.fieldOrEmpty "metadata"
  let labels ← metadata.fieldOrEmpty "labels"
  let package ← labels.fieldNamed label
  if !package.truthy then return unlabelled label
  let entries ← (← metadata.field "ownerReferences").givenElements
  match ← firstNamed package entries with
  | some reference => return found reference
  | none => return unmatched package

/-- The package's reference, the empty one if there is none. -/
def reference : PackageSearch → OwnerReference
  | found reference => reference
  | _ => .empty

def isFound : PackageSearch → Bool
  | found _ => true
  | _ => false

end PackageSearch

end ManifestOwnership
