import ManifestOwnership.Proofs.Establish.Step

/-! # What a pass leaves under an identity

The effect of a pass on one object, seen through what is found in the store afterwards. A pass
either skips the object or writes it: then the object under the identity has the content that the
pass goes by, the owners with the revision merged among them and the managed fields of before, and
every other identity finds what it found before.
-/

namespace ManifestOwnership

open Store

namespace Store.Memory

variable {memory middle after : Memory}

/-- No owner of an object in the first store is missing in the second. -/
def Keeps (memory after : Memory) : Prop :=
  ∀ key object refs, memory.find? key = some object → Manifest.owners object = .ok refs →
    ∃ object' refs', after.find? key = some object' ∧ Manifest.owners object' = .ok refs' ∧
      ∀ ref ∈ refs, ∃ ref' ∈ refs', ref'.sameKey ref = true

theorem Keeps.refl (memory : Memory) : memory.Keeps memory :=
  fun _ object refs found owners =>
    ⟨object, refs, found, owners, fun ref member => ⟨ref, member, ref.sameKey_refl⟩⟩

theorem Keeps.trans (first : memory.Keeps middle) (second : middle.Keeps after) :
    memory.Keeps after := by
  intro key object refs found owners
  obtain ⟨object', refs', found', owners', kept⟩ := first key object refs found owners
  obtain ⟨object'', refs'', found'', owners'', kept'⟩ := second key object' refs' found' owners'
  refine ⟨object'', refs'', found'', owners'', ?_⟩
  intro ref member
  obtain ⟨ref', member', same⟩ := kept ref member
  obtain ⟨ref'', member'', same'⟩ := kept' ref' member'
  exact ⟨ref'', member'', OwnerReference.sameKey_trans same' same⟩

/-- A write that merges a parent into the owners of the object it replaces keeps them all. -/
theorem keeps_of_merged {key : ObjectKey} {stored : Value}
    (found : ∀ other, after.find? other =
      if key.same other then some stored else memory.find? other)
    (merged : ∀ object refs, memory.find? key = some object → Manifest.owners object = .ok refs →
      ∃ (parent : OwnerReference) (control : Bool),
        Manifest.owners stored = .ok (parent.merge control refs)) : memory.Keeps after := by
  intro other object refs there owners
  cases same : key.same other with
  | false =>
    refine ⟨object, refs, ?_, owners, fun ref member => ⟨ref, member, ref.sameKey_refl⟩⟩
    rw [found, same]
    exact there
  | true =>
    obtain ⟨parent, control, owners'⟩ :=
      merged object refs ((Content.find?_congr same).trans there) owners
    refine ⟨stored, parent.merge control refs, ?_, owners',
      fun ref member => OwnerReference.exists_mem_merge_of_mem parent control member⟩
    rw [found, if_pos same]

end Store.Memory

namespace Pass

variable {issuer : Issuer} {memory after : Memory} {pass : Pass} {key : ObjectKey}
  {desired final stored : Value} {outcome : Outcome}

/-- The object whose owners the revision joins: the one in the store, or else the desired one. -/
def met (memory : Memory) (key : ObjectKey) (desired : Value) : Value :=
  (memory.find? key).getD desired

/-- The object whose content is written: the desired one if the revision takes control. -/
def base (pass : Pass) (memory : Memory) (key : ObjectKey) (desired : Value) : Value :=
  if pass.takesControl then desired else met memory key desired

/-- Whether a pass leaves an identity alone: it has no object, and the revision none to create. -/
def skips (pass : Pass) (memory : Memory) (key : ObjectKey) : Bool :=
  !pass.takesControl && (memory.find? key).isNone

/-- The fields of the metadata in which an object differs from the content it was written with. -/
def adjusted : List String :=
  "ownerReferences" :: Memory.managedNames

/-- A pass writes an object under an identity and leaves all others. -/
structure Wrote (issuer : Issuer) (pass : Pass) (memory : Memory) (desired : Value)
    (key : ObjectKey) (stored : Value) (after : Memory) : Prop where
  found : ∀ other, after.find? other = if key.same other then some stored else memory.find? other
  content : Manifest.Agree adjusted stored (pass.base memory key desired)
  owners : ∃ refs, Manifest.owners (met memory key desired) = .ok refs ∧
    Fields.get? stored.metadata "ownerReferences" = some (.list
      ((pass.parent.reference.merge pass.takesControl refs).map OwnerReference.toValue))
  uid : Fields.get? stored.metadata "uid" = some (Memory.managed "uid" (memory.before key)
    (pass.base memory key desired).metadata (issuer.uid (memory.uids + 1)))
  time : Fields.get? stored.metadata "creationTimestamp" = some (Memory.managed
    "creationTimestamp" (memory.before key) (pass.base memory key desired).metadata
    (issuer.time (memory.times + 1)))
  uids : after.uids = memory.uids + if Memory.isNew "uid" (memory.before key)
    (pass.base memory key desired).metadata then 1 else 0
  times : after.times = memory.times + if Memory.isNew "creationTimestamp" (memory.before key)
    (pass.base memory key desired).metadata then 1 else 0

private theorem wrote_of_target {start : Value} {own : ObjectKey}
    {refs : List OwnerReference}
    (agree : Manifest.Agree ["resourceVersion"] start (pass.base memory key desired))
    (same : own.same key = true) (owners : Manifest.owners (met memory key desired) = .ok refs) :
    Wrote issuer pass memory desired key
      (memory.stamped issuer (memory.before own) (pass.target refs start))
      (memory.written issuer (memory.before own) own (pass.target refs start)) := by
  have before : memory.before own = memory.before key := by
    rw [Memory.before, Memory.before, Memory.find?, Memory.find?, Content.find?_congr same]
  have formed : Manifest.Formed (pass.target refs start) := (agree_target agree.left refs).left
  have given {name : String} (kept : name ∉ ["ownerReferences", "resourceVersion"]) :
      Fields.get (pass.target refs start).metadata name =
        Fields.get (pass.base memory key desired).metadata name := by
    rw [(agree_target agree.left refs).get (by simp_all), agree.get (by simp_all)]
  rw [before]
  refine ⟨fun other => ?_, ?_, ⟨refs, owners, ?_⟩, ?_, ?_, ?_, ?_⟩
  · rw [Memory.find?_written, ObjectKey.same_congr_left same]
  · refine ((Memory.agree_stamped formed _).mono ?_).trans
      (((agree_target agree.left refs).mono ?_).trans (agree.mono ?_)) <;>
        simp [adjusted, Memory.managedNames]
  · rw [Memory.stamped, formed.metadata_withMetadata,
      Memory.get?_stamp_of_not_mem _ _ (by decide), target, Manifest.withOwners,
      agree.left.metadata_withMetadata, Fields.get?_set_self]
  · rw [Memory.stamped, formed.metadata_withMetadata, Memory.get?_stamp_uid,
      Memory.managed_congr rfl (given (by decide))]
  · rw [Memory.stamped, formed.metadata_withMetadata, Memory.get?_stamp_creationTimestamp,
      Memory.managed_congr rfl (given (by decide))]
  · rw [Memory.uids_written, Memory.isNew_congr rfl (given (by decide))]
  · rw [Memory.times_written, Memory.isNew_congr rfl (given (by decide))]

/-- What a pass leaves: a missing object that it does not control is skipped, and every other
object is written. -/
inductive Leaves (issuer : Issuer) (pass : Pass) (memory : Memory) (desired : Value)
    (key : ObjectKey) : Outcome → Memory → Prop where
  | skipped (skips : pass.skips memory key = true) :
      Leaves issuer pass memory desired key .skipped memory
  | wrote {stored : Value} {after : Memory} (writes : pass.skips memory key = false)
      (wrote : Wrote issuer pass memory desired key stored after) :
      Leaves issuer pass memory desired key
        (if (memory.find? key).isSome then .updated else .created) after

theorem Effect.leaves (sound : memory.Sound) (formed : Manifest.Formed desired)
    (atKey : Manifest.key desired = .ok key)
    (effect : Effect issuer pass memory desired key final outcome after) :
    Leaves issuer pass memory desired key outcome after := by
  cases effect with
  | skip mere absent => exact .skipped (by simp [skips, mere, absent])
  | @write _ base source _ refs own plan owners atOwn shown =>
    generalize found : memory.find? key = present at plan
    cases plan with
    | create control =>
      obtain rfl := Except.ok.inj (atKey.symm.trans atOwn)
      rw [show Outcome.created = if (memory.find? key).isSome then .updated else .created by
        simp [found]]
      refine .wrote (by simp [skips, control])
        (wrote_of_target ?_ (ObjectKey.same_refl key) ?_)
      · rw [Pass.base, if_pos control]
        exact .refl formed
      · rwa [met, found]
    | update control =>
      rw [key_versioned formed] at atOwn
      obtain rfl := Except.ok.inj (atKey.symm.trans atOwn)
      rw [show Outcome.updated = if (memory.find? key).isSome then .updated else .created by
        simp [found]]
      refine .wrote (by simp [skips, control])
        (wrote_of_target ?_ (ObjectKey.same_refl key) ?_)
      · rw [Pass.base, if_pos control]
        exact agree_versioned formed _
      · rwa [met, found]
    | join mere =>
      have held := sound.held key _ found
      obtain ⟨own', atOwn', same⟩ := held.filed
      obtain rfl := Except.ok.inj (atOwn'.symm.trans atOwn)
      rw [show Outcome.updated = if (memory.find? key).isSome then .updated else .created by
        simp [found]]
      refine .wrote (by simp [skips, found]) (wrote_of_target ?_ same ?_)
      · rw [Pass.base, if_neg (by simp [mere]), met, found]
        exact .refl held.formed
      · rwa [met, found]

private theorem exists_effect (issuer : Issuer) (sound : memory.Sound)
    (atKey : Manifest.key desired = .ok key) (formed : Manifest.Formed desired)
    (readable : pass.skips memory key = false →
      ∃ refs, Manifest.owners (met memory key desired) = .ok refs) :
    ∃ final outcome after, Effect issuer pass memory desired key final outcome after := by
  cases skipped : pass.skips memory key with
  | true =>
    obtain ⟨mere, absent⟩ : pass.takesControl = false ∧ memory.find? key = none := by
      simpa [skips] using skipped
    exact ⟨_, _, _, .skip mere absent⟩
  | false =>
    obtain ⟨refs, owners⟩ := readable skipped
    cases found : memory.find? key with
    | none =>
      have control : pass.takesControl = true := by simpa [skips, found] using skipped
      rw [met, found] at owners
      exact ⟨_, _, _, .write (by rw [found]; exact .create control) owners atKey rfl⟩
    | some current =>
      rw [met, found] at owners
      cases control : pass.takesControl with
      | false =>
        obtain ⟨own, atOwn, _⟩ := (sound.held key current found).filed
        exact ⟨_, _, _, .write (by rw [found]; exact .join control) owners atOwn rfl⟩
      | true =>
        exact ⟨_, _, _, .write (by rw [found]; exact .update control) owners
          ((key_versioned formed current).trans atKey) rfl⟩

variable {declared : Value} {result : Established}

/-- What establishing one object comes to. -/
theorem leaves_of_yields (sound : memory.Sound)
    (success : Interaction.Yields (Memory.answer issuer) memory (pass.establishOne declared) result
      after) :
    ∃ desired key, pass.Prepared declared desired key ∧
      TypedReference.ofManifest desired = .ok result.reference ∧
      Leaves issuer pass memory desired key result.outcome after := by
  obtain ⟨desired, key, final, prepared, effect, shown⟩ :=
    (yields_establishOne_iff sound).mp success
  exact ⟨desired, key, prepared, shown, effect.leaves sound prepared.formed prepared.atKey⟩

/-- A prepared object is established if it is skipped or its owners can be read. -/
theorem exists_yields (issuer : Issuer) (sound : memory.Sound)
    (prepared : pass.Prepared declared desired key) {reference : TypedReference}
    (shown : TypedReference.ofManifest desired = .ok reference)
    (readable : pass.skips memory key = false →
      ∃ refs, Manifest.owners (met memory key desired) = .ok refs) :
    ∃ outcome after, Interaction.Yields (Memory.answer issuer) memory (pass.establishOne declared)
        ⟨reference, outcome⟩ after ∧
      Leaves issuer pass memory desired key outcome after := by
  obtain ⟨final, outcome, after, effect⟩ :=
    exists_effect issuer sound prepared.atKey prepared.formed readable
  exact ⟨outcome, after,
    (yields_establishOne_iff sound).mpr ⟨desired, key, final, prepared, effect, shown⟩,
    effect.leaves sound prepared.formed prepared.atKey⟩

/-- A prepared object has the final identity of the declared one. -/
theorem Prepared.finalKey_eq (prepared : pass.Prepared declared desired key) :
    pass.establisher.finalKey pass.settings pass.parent declared = .ok key :=
  (Pass.finalKey_eq prepared.outcome prepared.formed).trans prepared.atKey

/-- The desired form of a declared object and its identity are determined. -/
theorem Prepared.unique {desired' : Value} {key' : ObjectKey}
    (prepared : pass.Prepared declared desired key)
    (prepared' : pass.Prepared declared desired' key') : desired = desired' ∧ key = key' := by
  obtain rfl := Except.ok.inj (prepared.outcome.symm.trans prepared'.outcome)
  exact ⟨rfl, Except.ok.inj (prepared.atKey.symm.trans prepared'.atKey)⟩

namespace Wrote

variable (wrote : Wrote issuer pass memory desired key stored after)

include wrote

/-- The object is found under its identity afterwards, in whatever form that is given. -/
theorem find?_of_same {other : ObjectKey} (same : key.same other = true) :
    after.find? other = some stored := by
  rw [wrote.found, if_pos same]

theorem find?_self : after.find? key = some stored :=
  wrote.find?_of_same (ObjectKey.same_refl key)

/-- Every other identity finds what it found before. -/
theorem find?_other {other : ObjectKey} (differs : key.same other = false) :
    after.find? other = memory.find? other := by
  rw [wrote.found, if_neg (by simp [differs])]

/-- The owners of the object are those before with the revision merged among them. -/
theorem owners_stored : ∃ refs, Manifest.owners (met memory key desired) = .ok refs ∧
    Manifest.owners stored = .ok (pass.parent.reference.merge pass.takesControl refs) := by
  obtain ⟨refs, before, listed⟩ := wrote.owners
  exact ⟨refs, before, wrote.content.left.owners_of_listed (OwnerReference.plain_merge _
    (OwnerReference.plain_reference _) (Manifest.plain_of_owners before)) listed⟩

/-- The revision joins the owners of the object that was there. -/
theorem owners_merged {object : Value} {refs : List OwnerReference}
    (present : memory.find? key = some object) (owners : Manifest.owners object = .ok refs) :
    Manifest.owners stored = .ok (pass.parent.reference.merge pass.takesControl refs) := by
  obtain ⟨refs', owners', merged⟩ := wrote.owners_stored
  rw [met, present, Option.getD_some] at owners'
  obtain rfl := Except.ok.inj (owners.symm.trans owners')
  exact merged

end Wrote

/-- Every identity but the one of the object is left. -/
theorem Leaves.find?_other {other : ObjectKey}
    (leaves : Leaves issuer pass memory desired key outcome after)
    (differs : key.same other = false) : after.find? other = memory.find? other := by
  cases leaves with
  | skipped => rfl
  | wrote _ wrote => exact wrote.find?_other differs

/-- A pass loses no owner of any object. -/
theorem Leaves.keeps (leaves : Leaves issuer pass memory desired key outcome after) :
    memory.Keeps after := by
  cases leaves with
  | skipped => exact .refl memory
  | wrote _ wrote =>
    refine Memory.keeps_of_merged wrote.found ?_
    intro object refs found owners
    exact ⟨_, _, wrote.owners_merged found owners⟩

end Pass

end ManifestOwnership
