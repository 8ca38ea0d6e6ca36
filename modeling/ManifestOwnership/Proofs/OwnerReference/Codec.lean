import ManifestOwnership.Revision
import ManifestOwnership.Proofs.Manifest.Metadata

/-! # Owner references in their written form

What is read as an owner reference is written and read back unchanged. The references of a formed
manifest sit in one field of its metadata, so writing them changes nothing else, and reading them
back gives the ones written.
-/

namespace ManifestOwnership

namespace OwnerReference

/-- A reference as it is read: each part of its key counts as given or is the empty text. -/
structure Plain (ref : OwnerReference) : Prop where
  apiVersion : ref.apiVersion.orElse (.text "") = ref.apiVersion
  kind : ref.kind.orElse (.text "") = ref.kind
  name : ref.name.orElse (.text "") = ref.name
  uid : ref.uid.orElse (.text "") = ref.uid

theorem plain_of_ofValue {value : Value} {ref : OwnerReference} (read : ofValue value = .ok ref) :
    ref.Plain := by
  simp only [ofValue, bind_eq_ok_iff, pure_eq_ok_iff] at read
  obtain ⟨fields, _, rfl⟩ := read
  constructor <;> simp

theorem plain_reference (revision : Revision) : revision.reference.Plain := by
  constructor <;> simp [Revision.reference]

theorem Plain.asOwner {ref : OwnerReference} (plain : ref.Plain) : ref.asOwner.Plain :=
  ⟨plain.apiVersion, plain.kind, plain.name, plain.uid⟩

theorem Plain.asController {ref : OwnerReference} (plain : ref.Plain) : ref.asController.Plain :=
  ⟨plain.apiVersion, plain.kind, plain.name, plain.uid⟩

theorem Plain.released {ref : OwnerReference} (plain : ref.Plain) : ref.released.Plain :=
  ⟨plain.apiVersion, plain.kind, plain.name, plain.uid⟩

private theorem get_flagField (name : String) (flag : Value) (rest : Fields)
    (absent : Fields.get? rest name = none) :
    Fields.get (flagField name flag ++ rest) name = flag := by
  cases flag <;> simp [flagField, Value.isNull, Fields.get, Fields.get?_cons, absent]

private theorem get_flagField_of_ne {name other : String} (flag : Value) (rest : Fields)
    (distinct : other ≠ name) :
    Fields.get (flagField name flag ++ rest) other = Fields.get rest other := by
  cases flag <;> simp [flagField, Value.isNull, Fields.get, Fields.get?_cons, distinct]

/-- A reference is read back from its written form. -/
theorem ofValue_toValue {ref : OwnerReference} (plain : ref.Plain) :
    ofValue ref.toValue = .ok ref := by
  have controller : Fields.get (flagField "controller" ref.controller ++
      flagField "blockOwnerDeletion" ref.blockOwnerDeletion) "controller" = ref.controller := by
    apply get_flagField
    cases ref.blockOwnerDeletion <;> simp [flagField, Value.isNull, Fields.get?_cons]
  have blocking : Fields.get (flagField "controller" ref.controller ++
      flagField "blockOwnerDeletion" ref.blockOwnerDeletion) "blockOwnerDeletion" =
        ref.blockOwnerDeletion := by
    rw [get_flagField_of_ne _ _ (by decide)]
    simpa using get_flagField "blockOwnerDeletion" ref.blockOwnerDeletion [] rfl
  obtain ⟨apiVersion, kind, name, uid, _, _⟩ := ref
  simp_all [ofValue, toValue, Value.fields, Fields.get, Fields.get?_cons, plain.apiVersion,
    plain.kind, plain.name, plain.uid, bind, Except.bind, pure, Except.pure]

theorem mapM_ofValue_toValue {refs : List OwnerReference} (plain : ∀ ref ∈ refs, ref.Plain) :
    (refs.map toValue).mapM ofValue = .ok refs := by
  induction refs with
  | nil => rfl
  | cons ref rest ih =>
    rw [List.forall_mem_cons] at plain
    simp [ofValue_toValue plain.1, ih plain.2, bind, Except.bind, pure, Except.pure]

theorem plain_of_mapM {entries : List Value} {refs : List OwnerReference}
    (read : entries.mapM ofValue = .ok refs) : ∀ ref ∈ refs, ref.Plain := by
  induction entries generalizing refs with
  | nil =>
    obtain rfl : [] = refs := by simpa using read
    simp
  | cons entry rest ih =>
    simp only [List.mapM_cons, bind_eq_ok_iff, pure_eq_ok_iff] at read
    obtain ⟨ref, first, others, tail, rfl⟩ := read
    exact List.forall_mem_cons.mpr ⟨plain_of_ofValue first, ih tail⟩

end OwnerReference

namespace Manifest

variable {definition : Value} {refs : List OwnerReference}

def withOwners (refs : List OwnerReference) (definition : Value) : Value :=
  definition.withMetadata (Fields.set definition.metadata "ownerReferences"
    (.list (refs.map OwnerReference.toValue)))

/-- The references that a field of the metadata lists. -/
def ownersListed (listed : Value) : Except Fault (List OwnerReference) :=
  listed.givenElements >>= List.mapM OwnerReference.ofValue

theorem Formed.owners_eq (formed : Formed definition) :
    owners definition = ownersListed (Fields.get definition.metadata "ownerReferences") := by
  rw [owners, formed.fieldOrEmpty_metadata]
  rfl

theorem Formed.setOwners_eq (formed : Formed definition) (refs : List OwnerReference) :
    setOwners refs definition = .ok (withOwners refs definition) := by
  rw [setOwners, formed.field_metadata]
  exact formed.setField_metadata _

theorem Formed.withOwners (formed : Formed definition) (refs : List OwnerReference) :
    Formed (withOwners refs definition) :=
  formed.withMetadata _

theorem Formed.agree_withOwners (formed : Formed definition) (refs : List OwnerReference) :
    Agree ["ownerReferences"] (Manifest.withOwners refs definition) definition :=
  formed.agree_set _ _

@[simp] theorem ownersListed_list (plain : ∀ ref ∈ refs, ref.Plain) :
    ownersListed (.list (refs.map OwnerReference.toValue)) = .ok refs := by
  rw [ownersListed, ← OwnerReference.mapM_ofValue_toValue plain]
  cases refs <;> rfl

/-- The references of a manifest are the ones that it lists in their written form. -/
theorem Formed.owners_of_listed (formed : Formed definition) (plain : ∀ ref ∈ refs, ref.Plain)
    (listed : Fields.get? definition.metadata "ownerReferences" =
      some (.list (refs.map OwnerReference.toValue))) : owners definition = .ok refs := by
  rw [formed.owners_eq, Fields.get, listed, Option.getD_some, ownersListed_list plain]

/-- The references of a manifest are the ones last written to it. -/
theorem Formed.owners_withOwners (formed : Formed definition) (plain : ∀ ref ∈ refs, ref.Plain) :
    owners (Manifest.withOwners refs definition) = .ok refs := by
  apply (formed.withOwners refs).owners_of_listed plain
  rw [Manifest.withOwners, formed.metadata_withMetadata, Fields.get?_set_self]

/-- References that are read from a manifest are written back as they are. -/
theorem plain_of_owners (read : owners definition = .ok refs) : ∀ ref ∈ refs, ref.Plain := by
  simp only [owners, bind_eq_ok_iff] at read
  obtain ⟨_, _, _, _, entries, _, read⟩ := read
  exact OwnerReference.plain_of_mapM read

/-- Manifests that agree on the field have the same references. -/
theorem Agree.owners_eq {aside : List String} {first second : Value}
    (agree : Agree aside first second) (kept : "ownerReferences" ∉ aside) :
    owners first = owners second := by
  rw [agree.left.owners_eq, agree.right.owners_eq, agree.get kept]

end Manifest

end ManifestOwnership
