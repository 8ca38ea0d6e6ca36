import ManifestOwnership.Proofs.OwnerReference.Codec
import ManifestOwnership.Proofs.Value.Overwrite

/-! # Writing owners and reading them back

The owners of a manifest are listed at one place of it. Writing them is a write at that place and
reading them a look there, so the laws of places apply: what is written is read back, nothing else
in the manifest changes, and a manifest whose owners are written as they are read stays the same
from then on. The references themselves survive because each of them was `Obtained` in a way that
leaves nothing in its key for which the empty text would be read instead.
-/

namespace ManifestOwnership

namespace OwnerReference

variable {ref : OwnerReference}

/-- The ways to come by a reference: it is read, built from texts or made to point at a revision,
and then its flags are set. -/
inductive Obtained : OwnerReference → Prop where
  | read {value : Value} {ref : OwnerReference} (success : ofValue value = .ok ref) : Obtained ref
  | texts (apiVersion kind name uid : String) (controller blockOwnerDeletion : Value) :
    Obtained ⟨.text apiVersion, .text kind, .text name, .text uid, controller, blockOwnerDeletion⟩
  | revision (revision : Revision) : Obtained revision.reference
  | asOwner {ref : OwnerReference} (obtained : Obtained ref) : Obtained ref.asOwner
  | asController {ref : OwnerReference} (obtained : Obtained ref) : Obtained ref.asController

private theorem orElse_text (s : String) : (Value.text s).orElse (.text "") = .text s := by
  by_cases blank : s = "" <;> simp [Value.orElse, Value.truthy, blank]

/-- Whatever is obtained is read back from its written form. -/
theorem Obtained.plain (obtained : Obtained ref) : ref.Plain := by
  induction obtained with
  | read success => exact plain_of_ofValue success
  | texts apiVersion kind name uid _ _ =>
    exact ⟨orElse_text apiVersion, orElse_text kind, orElse_text name, orElse_text uid⟩
  | revision revision => exact plain_reference revision
  | asOwner _ ih => exact ih.asOwner
  | asController _ ih => exact ih.asController

/-- The written form has the flags that are not null. -/
theorem get?_toValue_flag (ref : OwnerReference) :
    ref.toValue.get? "controller" =
        (if ref.controller.isNull then none else some ref.controller) ∧
      ref.toValue.get? "blockOwnerDeletion" =
        if ref.blockOwnerDeletion.isNull then none else some ref.blockOwnerDeletion := by
  cases control : ref.controller.isNull <;> cases blocking : ref.blockOwnerDeletion.isNull <;>
    simp [toValue, flagField, Fields.get?_cons, control, blocking]

/-- An object that is read as a reference is written again with the flags that are not null. -/
theorem exists_ofValue (fields : Fields) : ∃ ref, ofValue (.object fields) = .ok ref ∧
    ofValue ref.toValue = .ok ref ∧ ∀ flag ∈ ["controller", "blockOwnerDeletion"],
      ref.toValue.get? flag =
        if (Fields.get fields flag).isNull then none else some (Fields.get fields flag) := by
  obtain ⟨ref, read⟩ : ∃ ref, ofValue (.object fields) = .ok ref := ⟨_, rfl⟩
  refine ⟨ref, read, ofValue_toValue (plain_of_ofValue read), ?_⟩
  obtain rfl := Except.ok.inj read
  intro flag member
  obtain rfl | rfl : flag = "controller" ∨ flag = "blockOwnerDeletion" := by simpa using member
  · exact (get?_toValue_flag _).1
  · exact (get?_toValue_flag _).2

end OwnerReference

namespace Manifest

variable {definition owned : Value} {refs : List OwnerReference}

def ownersPath : Path := ⟨["metadata"], "ownerReferences"⟩

/-- The owners are read at their place. -/
theorem owners_eq_of_open (free : definition.Open ["metadata"]) :
    owners definition = definition.atOr ownersPath .null >>= ownersListed := by
  rw [owners, free.fieldOrEmpty_eq, ownersPath, free.atOr_eq]
  rfl

/-- The owners are written at their place. -/
theorem setOwners_eq_of_open (free : definition.Open ["metadata"]) (refs : List OwnerReference) :
    setOwners refs definition =
      definition.setAt ownersPath (.list (refs.map OwnerReference.toValue)) := by
  rw [ownersPath, free.setAt_eq]
  obtain ⟨content, rfl, ⟨found, none⟩ | ⟨found, none⟩ | found⟩ := free.get?_cases
  · simp [setOwners, Value.setField, Value.isNull, Fields.get, found, none]
  · simp [setOwners, Value.setField, Value.isNull, Fields.get, found, none]
  · simp [setOwners, Value.setField, Value.isNull, Fields.get, found]

/-- Owners are only written where the metadata is absent, null or an object. -/
theorem open_of_setOwners (success : setOwners refs definition = .ok owned) :
    definition.Open ["metadata"] := by
  simp only [setOwners, bind_eq_ok_iff, Value.field_eq_ok_iff] at success
  obtain ⟨metadata, ⟨content, rfl, read⟩, with_, written, _⟩ := success
  rw [Value.open_object_iff, Fields.open_cons_iff, read]
  cases metadata with
  | null => exact .inl rfl
  | object inner => exact .inr ⟨inner, rfl, trivial⟩
  | _ => contradiction

/-- Owners that are listed as they are written are the ones that are read. -/
theorem owners_of_listed (plain : ∀ ref ∈ refs, ref.Plain)
    (listed : definition.at? ownersPath = .ok (some (.list (refs.map OwnerReference.toValue)))) :
    owners definition = .ok refs := by
  rw [owners_eq_of_open (Value.open_of_at? listed), Value.atOr, listed]
  exact ownersListed_list plain

/-- To write the owners that are listed changes nothing. -/
theorem setOwners_of_listed
    (listed : definition.at? ownersPath = .ok (some (.list (refs.map OwnerReference.toValue)))) :
    setOwners refs definition = .ok definition := by
  rw [setOwners_eq_of_open (Value.open_of_at? listed), Value.setAt_of_at? listed]

/-- Owners can be written where metadata can; they are listed then and nothing else changes. -/
theorem exists_setOwners (free : definition.Open ["metadata"]) (refs : List OwnerReference) :
    ∃ owned, setOwners refs definition = .ok owned ∧
      owned.at? ownersPath = .ok (some (.list (refs.map OwnerReference.toValue))) ∧
      Value.Altered (fun _ after => after = some (.list (refs.map OwnerReference.toValue)))
        ["metadata", "ownerReferences"] (some definition) (some owned) := by
  obtain ⟨_, looked⟩ : ∃ found, definition.atOr ownersPath .null = .ok found :=
    free.exists_atOr .null
  obtain ⟨found, read, _⟩ := map_eq_ok_iff.mp looked
  obtain ⟨owned, written⟩ :=
    Value.exists_setAt (.list (refs.map OwnerReference.toValue)) read
  refine ⟨owned, ?_, Value.at?_setAt written, Value.altered_of_setAt read written rfl⟩
  rw [setOwners_eq_of_open free, written]

/-- A manifest whose owners are written as they are read. -/
def rewriteOwners (definition : Value) : Except Fault Value := do
  setOwners (← owners definition) definition

/-- A manifest whose owners were written as they are read is rewritten to itself. -/
theorem rewriteOwners_of_rewriteOwners {normal : Value}
    (success : rewriteOwners definition = .ok normal) : rewriteOwners normal = .ok normal := by
  obtain ⟨refs, read, written⟩ := bind_eq_ok_iff.mp success
  obtain ⟨owned, written', listed, _⟩ := exists_setOwners (open_of_setOwners written) refs
  obtain rfl := Except.ok.inj (written.symm.trans written')
  rw [rewriteOwners, owners_of_listed (plain_of_owners read) listed, ok_bind,
    setOwners_of_listed listed]

/-- An object that is read as a reference is written and read again without loss, with the flags
that are not null and no others. References that are written to a manifest are read back in order,
and nothing else changes in it. So to write the owners that are read settles a manifest at once. -/
theorem owners_round_trip :
    (∀ fields : Fields, ∃ ref, OwnerReference.ofValue (.object fields) = .ok ref ∧
      OwnerReference.ofValue ref.toValue = .ok ref ∧
      ∀ flag ∈ ["controller", "blockOwnerDeletion"], ref.toValue.get? flag =
        if (Fields.get fields flag).isNull then none else some (Fields.get fields flag)) ∧
    (∀ (definition : Value) (refs : List OwnerReference), definition.Open ["metadata"] →
      (∀ ref ∈ refs, ref.Obtained) → ∃ owned, setOwners refs definition = .ok owned ∧
        owners owned = .ok refs ∧
        Value.Altered (fun _ after => after = some (.list (refs.map OwnerReference.toValue)))
          ["metadata", "ownerReferences"] (some definition) (some owned)) ∧
    ∀ definition normal : Value, rewriteOwners definition = .ok normal →
      rewriteOwners normal = .ok normal := by
  refine ⟨OwnerReference.exists_ofValue, ?_, fun _ _ => rewriteOwners_of_rewriteOwners⟩
  intro definition refs free obtained
  obtain ⟨owned, written, listed, altered⟩ := exists_setOwners free refs
  exact ⟨owned, written, owners_of_listed (fun ref member => (obtained ref member).plain) listed,
    altered⟩

/-- An entry whose name does not count as given and whose flags are false and null. -/
def sparseEntry : Fields :=
  [("kind", .text "Provider"), ("name", .int 0), ("controller", .bool false),
    ("blockOwnerDeletion", .null)]

def sparseOwner : OwnerReference :=
  ⟨.text "", .text "Provider", .text "", .text "", .bool false, .null⟩

def unowned : Value :=
  .object [("kind", .text "Thing"), ("metadata", .null)]

/-- A manifest that lists the sparse entry. -/
def sparselyOwned : Value :=
  .object [("metadata", .object [("ownerReferences", .list [.object sparseEntry])])]

/-- Null metadata takes the sparse owner twice; the manifest that lists it is rewritten once. -/
theorem owners_round_trip_sparse :
    unowned.Open ["metadata"] ∧
    (∀ ref ∈ [sparseOwner, sparseOwner.asController], ref.Obtained) ∧
    (∃ owned, setOwners [sparseOwner, sparseOwner.asController] unowned = .ok owned ∧
      owners owned = .ok [sparseOwner, sparseOwner.asController] ∧ owned.get? "kind" =
        some (.text "Thing")) ∧
    ∃ normal, rewriteOwners sparselyOwned = .ok normal ∧ owners normal = .ok [sparseOwner] ∧
      rewriteOwners normal = .ok normal := by
  obtain ⟨_, writing, rewriting⟩ := owners_round_trip
  have read : OwnerReference.ofValue (.object sparseEntry) = .ok sparseOwner := rfl
  have obtained : ∀ ref ∈ [sparseOwner, sparseOwner.asController], ref.Obtained := by
    intro ref member
    obtain rfl | rfl : ref = sparseOwner ∨ ref = sparseOwner.asController := by simpa using member
    · exact .read read
    · exact .asController (.read read)
  have free : unowned.Open ["metadata"] :=
    Value.open_object_iff.mpr (Fields.open_cons_iff.mpr (.inl rfl))
  obtain ⟨owned, written, readBack, fields, fields', level, same, others, _⟩ :=
    writing unowned _ free obtained
  obtain ⟨normal, rewritten, listed⟩ : ∃ normal, rewriteOwners sparselyOwned = .ok normal ∧
      owners normal = .ok [sparseOwner] := ⟨_, rfl, rfl⟩
  refine ⟨free, obtained, ⟨owned, written, readBack, ?_⟩, normal, rewritten, listed,
    rewriting sparselyOwned normal rewritten⟩
  obtain rfl := Option.some.inj same
  obtain rfl := Option.some.inj level
  exact others "kind" (by decide)

end Manifest

end ManifestOwnership
