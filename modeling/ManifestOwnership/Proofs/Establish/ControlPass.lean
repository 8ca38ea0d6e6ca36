import ManifestOwnership.Proofs.Establish.Run

/-! # What a control pass leaves

After a pass that takes control, every declared object stands under its final identity with the
content it was prepared with. Four fields of its metadata come from elsewhere: the owners are those
of the object it replaces, or else the declared ones, with the revision in control among them, and
the managed fields outlive the replacement. Every other identity is as it was.
-/

namespace ManifestOwnership

open Store Interaction

variable {issuer : Issuer} {memory middle after : Memory} {pass : Pass} {key : ObjectKey}
  {declared desired stored object : Value} {objects : List Value} {outcome : Outcome}
  {result : Established} {results : List Established}

namespace Store.Memory

/-- A managed field of an object after a pass: as on the object before, if there was one, or else
as declared, if that counts as given, or else one of the values issued meanwhile. -/
def Carried (name : String) (issue : Nat → String) (issued issued' : Nat)
    (previous : Option Value) (declared object : Value) : Prop :=
  match previous with
  | some previous => Fields.get? object.metadata name = Fields.get? previous.metadata name
  | none =>
    if (Fields.get declared.metadata name).truthy then
      Fields.get? object.metadata name = Fields.get? declared.metadata name
    else ∃ n, issued < n ∧ n ≤ issued' ∧ Fields.get? object.metadata name = some (.text (issue n))

variable {name : String} {issue : Nat → String} {issued issued' earlier later : Nat}
  {previous : Option Value}

/-- What was issued in a part of a run was issued in the whole of it. -/
theorem Carried.mono (carried : Carried name issue issued issued' previous declared object)
    (before : earlier ≤ issued) (after : issued' ≤ later) :
    Carried name issue earlier later previous declared object := by
  unfold Carried at carried ⊢
  split
  · exact carried
  · split_ifs at carried ⊢
    · exact carried
    · obtain ⟨n, above, below, value⟩ := carried
      exact ⟨n, by omega, by omega, value⟩

/-- A field that a write manages is carried. -/
theorem carried_of_managed {own : Fields} (sound : memory.Sound)
    (given : ∀ previous, memory.find? key = some previous →
      (Fields.get previous.metadata name).truthy = true)
    (kept : Fields.get? own name = Fields.get? declared.metadata name)
    (value : Fields.get? object.metadata name =
      some (managed name (memory.before key) own (issue (issued + 1))))
    (count : issued' = issued + if isNew name (memory.before key) own then 1 else 0) :
    Carried name issue issued issued' (memory.find? key) declared object := by
  have declaredKept : Fields.get own name = Fields.get declared.metadata name := by
    rw [Fields.get, kept, Fields.get]
  cases found : memory.find? key with
  | some previous =>
    rw [sound.before_of_some found] at value
    rw [Carried, value, (managed_of_truthy (given previous found) own _).1]
  | none =>
    obtain ⟨fallback, new⟩ := managed_nil name own (issue (issued + 1))
    rw [before_of_none found] at value count
    rw [fallback, Value.orElse] at value
    rw [new] at count
    rw [Carried, ← declaredKept, ← kept]
    split_ifs at value ⊢ with given
    · rw [value, Fields.get?_of_truthy given]
    · exact ⟨issued + 1, by omega, by simp [count, given], value⟩

end Store.Memory

namespace Pass

/-- What a control pass leaves of a declared object, given the stores before and after it. -/
structure Controlled (issuer : Issuer) (pass : Pass) (memory after : Memory) (declared : Value)
    (result : Established) (key : ObjectKey) (object : Value) : Prop where
  final : pass.establisher.finalKey pass.settings pass.parent declared = .ok key
  found : after.find? key = some object
  content : ∃ renamed desired,
    pass.establisher.renamed pass.settings pass.parent declared = .ok renamed ∧
      pass.service.inject pass.bundle renamed = .ok desired ∧
      Manifest.Agree ["ownerReferences", "uid", "creationTimestamp", "resourceVersion"] object
        desired
  owners : ∃ refs, Manifest.owners ((memory.find? key).getD declared) = .ok refs ∧
    Fields.get? object.metadata "ownerReferences" =
      some (.list ((pass.parent.reference.takeControl refs).map OwnerReference.toValue))
  uid : Memory.Carried "uid" issuer.uid memory.uids after.uids (memory.find? key) declared object
  creationTimestamp : Memory.Carried "creationTimestamp" issuer.time memory.times after.times
    (memory.find? key) declared object
  outcome : result.outcome = if (memory.find? key).isSome then .updated else .created
  reference : TypedReference.ofManifest object = .ok result.reference

namespace Controlled

variable (controlled : Controlled issuer pass middle after declared result key object)

include controlled

/-- A longer run that starts and ends with the same object leaves the same. -/
theorem mono {before last : Memory} (start : middle.find? key = before.find? key)
    (finish : last.find? key = after.find? key) (uids : before.uids ≤ middle.uids)
    (uids' : after.uids ≤ last.uids) (times : before.times ≤ middle.times)
    (times' : after.times ≤ last.times) :
    Controlled issuer pass before last declared result key object where
  final := controlled.final
  found := finish.trans controlled.found
  content := controlled.content
  owners := start ▸ controlled.owners
  uid := start ▸ controlled.uid.mono uids uids'
  creationTimestamp := start ▸ controlled.creationTimestamp.mono times times'
  outcome := start ▸ controlled.outcome
  reference := controlled.reference

end Controlled

/-- A pass never takes back what it has issued. -/
theorem Leaves.issued_le (leaves : Leaves issuer pass memory desired key outcome after) :
    memory.uids ≤ after.uids ∧ memory.times ≤ after.times := by
  cases leaves with
  | skipped => exact ⟨Nat.le_refl _, Nat.le_refl _⟩
  | wrote _ wrote =>
    rw [wrote.uids, wrote.times]
    exact ⟨Nat.le_add_right _ _, Nat.le_add_right _ _⟩

theorem issued_le (success : Yields (Memory.answer issuer) memory (pass.establishAll objects)
    results after) (sound : memory.Sound) :
    memory.uids ≤ after.uids ∧ memory.times ≤ after.times := by
  refine yields_establishAll_induction (motive := fun after =>
    memory.uids ≤ after.uids ∧ memory.times ≤ after.times) success sound
    ⟨Nat.le_refl _, Nat.le_refl _⟩ ?_
  intro declared _ before after result sound' earlier one
  obtain ⟨_, _, _, _, leaves⟩ := leaves_of_yields sound' one
  exact ⟨Nat.le_trans earlier.1 leaves.issued_le.1, Nat.le_trans earlier.2 leaves.issued_le.2⟩

/-- Taking control of one declared object. -/
theorem controlled_of_leaves (control : pass.takesControl = true) (sound : memory.Sound)
    (prepared : pass.Prepared declared desired key)
    (shown : TypedReference.ofManifest desired = .ok result.reference)
    (leaves : Leaves issuer pass memory desired key result.outcome after) :
    ∃ object, Controlled issuer pass memory after declared result key object := by
  generalize outcome : result.outcome = marked at leaves
  cases leaves with
  | skipped skips => simp [Pass.skips, control] at skips
  | @wrote stored _ _ wrote =>
    have content := wrote.content
    have kept {name : String} (other : name ≠ "name") :=
      get?_metadata_prepare prepared.outcome prepared.formed other
    obtain ⟨renamed, named, injected, _⟩ := prepare_cases prepared.outcome prepared.formed
    obtain ⟨refs, owners, listed⟩ := wrote.owners
    have uid := wrote.uid
    have time := wrote.time
    have uids := wrote.uids
    have times := wrote.times
    rw [base, if_pos control] at content uid time uids times
    rw [control] at listed
    have before : Manifest.owners ((memory.find? key).getD declared) = .ok refs := by
      rw [← owners, met]
      cases memory.find? key with
      | none => exact (owners_prepare prepared.outcome prepared.formed).symm
      | some previous => rfl
    have identified : ∀ previous, memory.find? key = some previous →
        (Fields.get previous.metadata "uid").truthy = true :=
      fun previous found => (sound.held key previous found).identified
    have timed : ∀ previous, memory.find? key = some previous →
        (Fields.get previous.metadata "creationTimestamp").truthy = true :=
      fun previous found => (sound.held key previous found).timed
    have reference : TypedReference.ofManifest stored = .ok result.reference := by
      rw [content.reference_eq (by decide), shown]
    exact ⟨stored, prepared.finalKey_eq, wrote.find?_self,
      ⟨renamed, desired, named, injected, content⟩, ⟨refs, before, listed⟩,
      Memory.carried_of_managed sound identified (kept (by decide)) uid uids,
      Memory.carried_of_managed sound timed (kept (by decide)) time times, outcome, reference⟩

/-- Whether two declared objects have different final identities, as far as they have any. -/
def Apart (pass : Pass) (first second : Value) : Prop :=
  ∀ key key', pass.establisher.finalKey pass.settings pass.parent first = .ok key →
    pass.establisher.finalKey pass.settings pass.parent second = .ok key' → key.same key' = false

/-- A control pass over objects of distinct identities leaves each of them, also in view of an
earlier store `before` that differs in other identities only. -/
theorem controlled_of_yields {before : Memory} (control : pass.takesControl = true)
    (sound : memory.Sound) (distinct : objects.Pairwise pass.Apart)
    (success : Yields (Memory.answer issuer) memory (pass.establishAll objects) results after)
    (start : ∀ declared ∈ objects, ∀ key,
      pass.establisher.finalKey pass.settings pass.parent declared = .ok key →
        memory.find? key = before.find? key)
    (issued : before.uids ≤ memory.uids ∧ before.times ≤ memory.times) :
    List.Forall₂ (fun declared result => ∃ key object,
      Controlled issuer pass before after declared result key object) objects results := by
  induction objects generalizing memory results with
  | nil =>
    obtain ⟨rfl, _⟩ := yields_establishAll_nil_iff.mp success
    exact .nil
  | cons declared rest ih =>
    obtain ⟨apart, distinct⟩ := List.pairwise_cons.mp distinct
    obtain ⟨here, there⟩ := List.forall_mem_cons.mp start
    obtain ⟨result, middle, others, one, all, rfl⟩ := yields_establishAll_cons_iff.mp success
    obtain ⟨desired, key, prepared, shown, leaves⟩ := leaves_of_yields sound one
    have sound' := sound.yields one
    have step := leaves.issued_le
    have later := issued_le all sound'
    obtain ⟨object, controlled⟩ := controlled_of_leaves control sound prepared shown leaves
    have kept : after.find? key = middle.find? key := by
      refine find?_of_apart all sound' fun other member desired' key' prepared' => ?_
      rw [ObjectKey.same_comm]
      exact apart other member key key' controlled.final prepared'.finalKey_eq
    refine .cons ⟨key, object, controlled.mono (here key controlled.final) kept issued.1 later.1
      issued.2 later.2⟩ (ih sound' distinct all ?_ ⟨by omega, by omega⟩)
    intro other member key' final'
    rw [← there other member key' final']
    exact leaves.find?_other (apart other member key key' controlled.final final')

end Pass

namespace Undertaking

/-- A control pass over objects of distinct final identities leaves every one of them under its
identity, as the fields of `Pass.Controlled` say, and every other identity as it was. -/
theorem control_pass (undertaking : Undertaking) (reachable : memory.Reachable issuer)
    (control : undertaking.takesControl = true)
    (distinct : undertaking.objects.Pairwise fun first second => ∀ key key',
      undertaking.finalKey first = .ok key → undertaking.finalKey second = .ok key' →
        key.same key' = false)
    (success : Yields (Memory.answer issuer) memory undertaking.activity results after) :
    ∃ bundle, Yields (Memory.answer issuer) memory undertaking.fetch bundle memory ∧
      List.Forall₂ (fun declared result => ∃ key object, Pass.Controlled issuer
        (undertaking.pass bundle) memory after declared result key object)
        undertaking.objects results ∧
      ∀ key, ¬ undertaking.Declares key → after.find? key = memory.find? key := by
  obtain ⟨bundle, fetched, _, all⟩ := yields_activity_iff.mp success
  refine ⟨bundle, fetched, ?_, fun key apart => ?_⟩
  · exact Pass.controlled_of_yields control reachable.sound distinct all (fun _ _ _ _ => rfl)
      ⟨Nat.le_refl _, Nat.le_refl _⟩
  · exact find?_of_not_declares undertaking all reachable.sound apart

/-- A revision takes control of two objects that a store does not hold yet. -/
theorem control_pass_ofNames : ∃ bundle after,
    Yields (Memory.answer Memory.numerals) (Memory.empty true) (ofNames "r" ["a", "b"] true).fetch
      bundle (Memory.empty true) ∧
    List.Forall₂ (fun declared result => ∃ key object, Pass.Controlled Memory.numerals
      ((ofNames "r" ["a", "b"] true).pass bundle) (Memory.empty true) after declared result key
        object) [bare "a", bare "b"]
      [⟨⟨.text "v1", .text "Thing", .text "a"⟩, .created⟩,
        ⟨⟨.text "v1", .text "Thing", .text "b"⟩, .created⟩] ∧
    ∀ key, ¬ (ofNames "r" ["a", "b"] true).Declares key →
      after.find? key = (Memory.empty true).find? key := by
  have start : Memory.Reachable Memory.numerals (Memory.empty true) :=
    .start (show Memory.ofResources Memory.numerals true [] = .ok _ from rfl)
  have first : (ofNames "r" ["a", "b"] true).finalKey (bare "a") =
      .ok ⟨.null, .text "Thing", .text "v1", .text "a"⟩ := rfl
  have second : (ofNames "r" ["a", "b"] true).finalKey (bare "b") =
      .ok ⟨.null, .text "Thing", .text "v1", .text "b"⟩ := rfl
  have distinct : [bare "a", bare "b"].Pairwise fun declared declared' => ∀ key key',
      (ofNames "r" ["a", "b"] true).finalKey declared = .ok key →
        (ofNames "r" ["a", "b"] true).finalKey declared' = .ok key' →
          key.same key' = false := by
    refine List.pairwise_pair.mpr ?_
    intro key key' atKey atKey'
    obtain rfl := Except.ok.inj (first.symm.trans atKey)
    obtain rfl := Except.ok.inj (second.symm.trans atKey')
    rfl
  obtain ⟨bundle, whole⟩ := control_pass (ofNames "r" ["a", "b"] true) start rfl distinct ⟨rfl, rfl⟩
  exact ⟨bundle, _, whole⟩

end Undertaking

end ManifestOwnership
