import ManifestOwnership.Proofs.Establish.Identity

/-! # The order of declared objects

What a pass does for an object depends on the store through what stands under its identity, and it
changes nothing else. So if all final identities differ, each object meets the store as it was at
the beginning, wherever it stands in the list: `Pass.Fits` says of that store when an object can be
established, and `Pass.Settled` what is left of it. Only the versions, and the identifiers and times
that the store issues, tell two orders apart.
-/

namespace ManifestOwnership

open Store Interaction

variable {issuer : Issuer} {memory before after after' last : Memory} {pass : Pass}
  {key : ObjectKey} {declared desired object object' : Value} {objects reordered : List Value}
  {outcome : Outcome} {result : Established} {results : List Established}

namespace Store.Memory

/-- A field is one of the values that were issued meanwhile. -/
def Issued (issue : Nat → String) (issued issued' : Nat) (field : Option Value) : Prop :=
  ∃ n, issued < n ∧ n ≤ issued' ∧ field = some (.text (issue n))

/-- Two objects that two runs from one store leave. They agree in every field but the version, and
in identifier and time unless both runs issued these. -/
structure Counterparts (issuer : Issuer) (memory after after' : Memory)
    (object object' : Value) : Prop where
  agree : Manifest.Agree managedNames object object'
  uid : Fields.get? object.metadata "uid" = Fields.get? object'.metadata "uid" ∨
    Issued issuer.uid memory.uids after.uids (Fields.get? object.metadata "uid") ∧
      Issued issuer.uid memory.uids after'.uids (Fields.get? object'.metadata "uid")
  time : Fields.get? object.metadata "creationTimestamp" =
      Fields.get? object'.metadata "creationTimestamp" ∨
    Issued issuer.time memory.times after.times
        (Fields.get? object.metadata "creationTimestamp") ∧
      Issued issuer.time memory.times after'.times
        (Fields.get? object'.metadata "creationTimestamp")

theorem Counterparts.refl (formed : Manifest.Formed object) :
    Counterparts issuer memory after after' object object :=
  ⟨.refl formed, .inl rfl, .inl rfl⟩

/-- Fields that two runs carry from one object and one declaration agree unless both runs issued
them. -/
theorem Carried.counterparts {name : String} {issue : Nat → String}
    {issued issued' issued'' : Nat} {previous : Option Value}
    (carried : Carried name issue issued issued' previous desired object)
    (carried' : Carried name issue issued issued'' previous desired object') :
    Fields.get? object.metadata name = Fields.get? object'.metadata name ∨
      Issued issue issued issued' (Fields.get? object.metadata name) ∧
        Issued issue issued issued'' (Fields.get? object'.metadata name) := by
  cases previous with
  | some previous => exact .inl (Eq.trans carried (Eq.symm carried'))
  | none =>
    unfold Carried at carried carried'
    split_ifs at carried carried' with given
    · exact .inl (carried.trans carried'.symm)
    · exact .inr ⟨carried, carried'⟩

end Store.Memory

namespace Pass

/-! ## One object, seen from an earlier store -/

def mark (pass : Pass) (memory : Memory) (key : ObjectKey) : Outcome :=
  if pass.skips memory key then .skipped
  else if (memory.find? key).isSome then .updated
  else .created

/-- A declared object can be established against a store, with a given result. -/
structure Fits (pass : Pass) (memory : Memory) (declared desired : Value) (key : ObjectKey)
    (result : Established) : Prop where
  prepared : pass.Prepared declared desired key
  shown : TypedReference.ofManifest desired = .ok result.reference
  readable : pass.skips memory key = false →
    ∃ refs, Manifest.owners (met memory key desired) = .ok refs
  outcome : result.outcome = pass.mark memory key

/-- What a pass writes for a desired object, given the stores before and after it. -/
structure Settles (issuer : Issuer) (pass : Pass) (memory after : Memory) (desired : Value)
    (key : ObjectKey) (object : Value) : Prop where
  found : after.find? key = some object
  content : Manifest.Agree adjusted object (pass.base memory key desired)
  owners : ∃ refs, Manifest.owners (met memory key desired) = .ok refs ∧
    Fields.get? object.metadata "ownerReferences" = some (.list
      ((pass.parent.reference.merge pass.takesControl refs).map OwnerReference.toValue))
  uid : Memory.Carried "uid" issuer.uid memory.uids after.uids (memory.find? key)
    (pass.base memory key desired) object
  time : Memory.Carried "creationTimestamp" issuer.time memory.times after.times
    (memory.find? key) (pass.base memory key desired) object

/-- What a pass leaves under the identity of a desired object: nothing if it skips the object, and
else what it writes. -/
def Settled (issuer : Issuer) (pass : Pass) (memory after : Memory) (desired : Value)
    (key : ObjectKey) : Prop :=
  if pass.skips memory key then after.find? key = none
  else ∃ object, Settles issuer pass memory after desired key object

/-- An object meets no more of a store than what stands under its identity. -/
theorem Fits.congr (fits : pass.Fits before declared desired key result)
    (same : memory.find? key = before.find? key) :
    pass.Fits memory declared desired key result := by
  have skips : pass.skips memory key = pass.skips before key := by rw [Pass.skips, Pass.skips, same]
  refine ⟨fits.prepared, fits.shown, fun writes => ?_, ?_⟩
  · rw [met, same]
    exact fits.readable (skips ▸ writes)
  · rw [fits.outcome, mark, mark, skips, same]

/-- The result for an object is determined. -/
theorem Fits.unique {desired' : Value} {key' : ObjectKey} {result' : Established}
    (fits : pass.Fits memory declared desired key result)
    (fits' : pass.Fits memory declared desired' key' result') : result = result' := by
  obtain ⟨rfl, rfl⟩ := fits.prepared.unique fits'.prepared
  have reference := Except.ok.inj (fits.shown.symm.trans fits'.shown)
  have outcome := fits.outcome.trans fits'.outcome.symm
  cases result
  cases result'
  exact congrArg₂ Established.mk reference outcome

/-- A longer run that starts and ends with the same object settles the same. -/
theorem Settled.mono (settled : Settled issuer pass memory after desired key)
    (start : memory.find? key = before.find? key) (finish : last.find? key = after.find? key)
    (earlier : before.uids ≤ memory.uids ∧ before.times ≤ memory.times)
    (later : after.uids ≤ last.uids ∧ after.times ≤ last.times) :
    Settled issuer pass before last desired key := by
  have skips : pass.skips before key = pass.skips memory key := by
    rw [Pass.skips, Pass.skips, start]
  have base : pass.base before key desired = pass.base memory key desired := by
    rw [Pass.base, Pass.base, met, met, start]
  unfold Settled at settled ⊢
  rw [skips]
  split_ifs at settled ⊢
  · exact finish.trans settled
  · obtain ⟨object, settles⟩ := settled
    refine ⟨object, finish.trans settles.found, base ▸ settles.content, ?_, ?_, ?_⟩
    · rw [met, ← start]
      exact settles.owners
    · rw [base, ← start]
      exact settles.uid.mono earlier.1 later.1
    · rw [base, ← start]
      exact settles.time.mono earlier.2 later.2

/-- Two passes from one store leave counterparts under the identity of an object. -/
theorem Settled.counterparts (settled : Settled issuer pass memory after desired key)
    (settled' : Settled issuer pass memory after' desired key) :
    Option.Rel (Memory.Counterparts issuer memory after after') (after.find? key)
      (after'.find? key) := by
  unfold Settled at settled settled'
  split_ifs at settled settled'
  · rw [settled, settled']
    exact .none
  · obtain ⟨object, settles⟩ := settled
    obtain ⟨object', settles'⟩ := settled'
    rw [settles.found, settles'.found]
    refine .some
      ⟨?_, settles.uid.counterparts settles'.uid, settles.time.counterparts settles'.time⟩
    refine (settles.content.trans settles'.content.symm).narrow fun name member kept => ?_
    obtain rfl : name = "ownerReferences" := by
      obtain same | managed := List.mem_cons.mp member
      · exact same
      · exact absurd managed kept
    obtain ⟨refs, owners, listed⟩ := settles.owners
    obtain ⟨refs', owners', listed'⟩ := settles'.owners
    obtain rfl := Except.ok.inj (owners.symm.trans owners')
    exact listed.trans listed'.symm

/-! ## Establishing it -/

theorem Leaves.fits (leaves : Leaves issuer pass memory desired key result.outcome after)
    (prepared : pass.Prepared declared desired key)
    (shown : TypedReference.ofManifest desired = .ok result.reference) :
    pass.Fits memory declared desired key result := by
  generalize marked : result.outcome = outcome at leaves
  cases leaves with
  | skipped skips =>
    refine ⟨prepared, shown, fun writes => ?_, ?_⟩
    · simp [skips] at writes
    · rw [marked, mark, if_pos skips]
  | wrote writes wrote =>
    refine ⟨prepared, shown, fun _ => ?_, ?_⟩
    · obtain ⟨refs, owners, _⟩ := wrote.owners
      exact ⟨refs, owners⟩
    · rw [marked, mark, writes, if_neg Bool.false_ne_true]

theorem Leaves.settled (leaves : Leaves issuer pass memory desired key outcome after)
    (sound : memory.Sound) : Settled issuer pass memory after desired key := by
  unfold Settled
  cases leaves with
  | skipped skips =>
    rw [if_pos skips]
    obtain ⟨_, absent⟩ : pass.takesControl = false ∧ memory.find? key = none := by
      simpa [Pass.skips] using skips
    exact absent
  | @wrote stored _ writes wrote =>
    rw [if_neg (by simp [writes])]
    have identified : ∀ previous, memory.find? key = some previous →
        (Fields.get previous.metadata "uid").truthy = true :=
      fun previous found => (sound.held key previous found).identified
    have timed : ∀ previous, memory.find? key = some previous →
        (Fields.get previous.metadata "creationTimestamp").truthy = true :=
      fun previous found => (sound.held key previous found).timed
    exact ⟨stored, wrote.find?_self, wrote.content, wrote.owners,
      Memory.carried_of_managed sound identified rfl wrote.uid wrote.uids,
      Memory.carried_of_managed sound timed rfl wrote.time wrote.times⟩

/-- An object that fits is established. -/
theorem Fits.exists_yields (issuer : Issuer) (fits : pass.Fits memory declared desired key result)
    (sound : memory.Sound) :
    ∃ after, Yields (Memory.answer issuer) memory (pass.establishOne declared) result after ∧
      Leaves issuer pass memory desired key result.outcome after := by
  obtain ⟨outcome, after, one, leaves⟩ :=
    Pass.exists_yields issuer sound fits.prepared fits.shown fits.readable
  have fits' : pass.Fits memory declared desired key ⟨result.reference, outcome⟩ :=
    leaves.fits fits.prepared fits.shown
  obtain rfl : outcome = result.outcome := congrArg Established.outcome (fits'.unique fits)
  exact ⟨after, one, leaves⟩

/-! ## Establishing all of them -/

/-- Two stores find the same under the final identities of declared objects. -/
def Meets (pass : Pass) (memory before : Memory) (objects : List Value) : Prop :=
  ∀ declared ∈ objects, ∀ key,
    pass.establisher.finalKey pass.settings pass.parent declared = .ok key →
      memory.find? key = before.find? key

/-- Establishing an object leaves what the others meet. -/
theorem Meets.of_leaves (meets : pass.Meets memory before objects)
    (leaves : Leaves issuer pass memory desired key outcome after)
    (atKey : pass.establisher.finalKey pass.settings pass.parent declared = .ok key)
    (apart : ∀ other ∈ objects, pass.Apart declared other) : pass.Meets after before objects := by
  intro other member key' final
  rw [← meets other member key' final]
  exact leaves.find?_other (apart other member key key' atKey final)

/-- Objects of distinct identities that are established fit the store at the beginning, and are
settled at the end. -/
theorem fits_of_yields (sound : memory.Sound) (distinct : objects.Pairwise pass.Apart)
    (success : Yields (Memory.answer issuer) memory (pass.establishAll objects) results after)
    (meets : pass.Meets memory before objects)
    (issued : before.uids ≤ memory.uids ∧ before.times ≤ memory.times) :
    List.Forall₂ (fun declared result => ∃ desired key,
      pass.Fits before declared desired key result ∧
        Settled issuer pass before after desired key) objects results := by
  -- The store moves on with each object, but what the remaining ones meet in it does not.
  induction objects generalizing memory results with
  | nil =>
    obtain ⟨rfl, _⟩ := yields_establishAll_nil_iff.mp success
    exact .nil
  | cons declared rest ih =>
    obtain ⟨apart, distinct⟩ := List.pairwise_cons.mp distinct
    obtain ⟨here, there⟩ := List.forall_mem_cons.mp meets
    obtain ⟨result, middle, others, one, all, rfl⟩ := yields_establishAll_cons_iff.mp success
    obtain ⟨desired, key, prepared, shown, leaves⟩ := leaves_of_yields sound one
    have sound' := sound.yields one
    have start := here key prepared.finalKey_eq
    have step := leaves.issued_le
    have later := issued_le all sound'
    have kept : after.find? key = middle.find? key := by
      refine find?_of_apart all sound' fun other member desired' key' prepared' => ?_
      rw [ObjectKey.same_comm]
      exact apart other member key key' prepared.finalKey_eq prepared'.finalKey_eq
    refine .cons ⟨desired, key, (leaves.fits prepared shown).congr start.symm,
      (leaves.settled sound).mono start kept issued later⟩ ?_
    exact ih sound' distinct all (Meets.of_leaves there leaves prepared.finalKey_eq apart)
      ⟨Nat.le_trans issued.1 step.1, Nat.le_trans issued.2 step.2⟩

/-- Objects of distinct identities that fit the store at the beginning are established. -/
theorem exists_yields_of_fits (issuer : Issuer) (sound : memory.Sound)
    (distinct : objects.Pairwise pass.Apart)
    (fits : List.Forall₂ (fun declared result => ∃ desired key,
      pass.Fits before declared desired key result) objects results)
    (meets : pass.Meets memory before objects) :
    ∃ after, Yields (Memory.answer issuer) memory (pass.establishAll objects) results after := by
  induction fits generalizing memory with
  | nil => exact ⟨memory, yields_establishAll_nil_iff.mpr ⟨rfl, rfl⟩⟩
  | @cons declared result rest others first _ ih =>
    obtain ⟨apart, distinct⟩ := List.pairwise_cons.mp distinct
    obtain ⟨here, there⟩ := List.forall_mem_cons.mp meets
    obtain ⟨desired, key, fits⟩ := first
    have final := fits.prepared.finalKey_eq
    obtain ⟨middle, one, leaves⟩ := (fits.congr (here key final)).exists_yields issuer sound
    obtain ⟨after, all⟩ :=
      ih (sound.yields one) distinct (Meets.of_leaves there leaves final apart)
    exact ⟨after, yields_establishAll_cons_iff.mpr ⟨result, middle, others, one, all, rfl⟩⟩

private theorem exists_result {Holds : Value → Established → Prop}
    (each : List.Forall₂ Holds objects results) :
    ∀ declared ∈ objects, ∃ result, Holds declared result := by
  induction each with
  | nil => simp
  | cons first _ ih => exact List.forall_mem_cons.mpr ⟨⟨_, first⟩, ih⟩

private theorem exists_eq_map {Holds : Value → Established → Prop}
    (functional : Relator.RightUnique Holds) (each : List.Forall₂ Holds objects results) :
    ∃ established : Value → Established, results = objects.map established ∧
      ∀ declared ∈ objects, Holds declared (established declared) := by
  have inhabited : Nonempty Established := ⟨⟨⟨.null, .null, .null⟩, .skipped⟩⟩
  choose! established holds using exists_result each
  refine ⟨established, functional.forall₂ each ?_, holds⟩
  exact List.forall₂_map_right_iff.mpr (List.forall₂_same.mpr holds)

/-- Passes over objects of distinct identities in two orders leave counterparts under every
identity. -/
theorem counterparts_of_yields {results' : List Established} (sound : memory.Sound)
    (distinct : objects.Pairwise pass.Apart) (distinct' : reordered.Pairwise pass.Apart)
    (perm : objects.Perm reordered)
    (success : Yields (Memory.answer issuer) memory (pass.establishAll objects) results after)
    (success' : Yields (Memory.answer issuer) memory (pass.establishAll reordered) results' after')
    (key : ObjectKey) :
    Option.Rel (Memory.Counterparts issuer memory after after') (after.find? key)
      (after'.find? key) := by
  have issued : memory.uids ≤ memory.uids ∧ memory.times ≤ memory.times :=
    ⟨Nat.le_refl _, Nat.le_refl _⟩
  by_cases declares : ∃ declared ∈ objects, ∃ desired own,
      pass.Prepared declared desired own ∧ own.same key = true
  · obtain ⟨declared, member, desired, own, prepared, same⟩ := declares
    have found (store : Memory) : store.find? key = store.find? own :=
      (Content.find?_congr same).symm
    obtain ⟨_, _, _, fits, settled⟩ := exists_result
      (fits_of_yields sound distinct success (fun _ _ _ _ => rfl) issued) declared member
    obtain ⟨_, _, _, fits', settled'⟩ := exists_result
      (fits_of_yields sound distinct' success' (fun _ _ _ _ => rfl) issued) declared
        (perm.mem_iff.mp member)
    obtain ⟨rfl, rfl⟩ := prepared.unique fits.prepared
    obtain ⟨rfl, rfl⟩ := prepared.unique fits'.prepared
    rw [found after, found after']
    exact settled.counterparts settled'
  · -- Neither pass comes near the identity, and both find there what was there before.
    have apart : ∀ declared ∈ objects, ∀ desired own, pass.Prepared declared desired own →
        own.same key = false := by
      intro declared member desired own prepared
      by_contra same
      exact declares ⟨declared, member, desired, own, prepared, by simpa using same⟩
    rw [find?_of_apart success sound apart,
      find?_of_apart success' sound fun declared member => apart declared (perm.mem_iff.mpr member)]
    cases found : memory.find? key with
    | none => exact .none
    | some object => exact .some (.refl (sound.held key object found).formed)

end Pass

namespace Undertaking

/-- If a pass over objects of distinct final identities succeeds, it succeeds on them in any order,
with the same result for each object. Under every identity the two passes leave the same, up to the
version and to identifiers and times that both of them issued. -/
theorem order_independent (undertaking : Undertaking) (reachable : memory.Reachable issuer)
    (distinct : undertaking.objects.Pairwise undertaking.Apart)
    (perm : undertaking.objects.Perm reordered)
    (success : Yields (Memory.answer issuer) memory undertaking.activity results after) :
    ∃ results' after', Yields (Memory.answer issuer) memory
        { undertaking with objects := reordered }.activity results' after' ∧
      (∃ established : Value → Established, results = undertaking.objects.map established ∧
        results' = reordered.map established) ∧
      ∀ key, Option.Rel (Memory.Counterparts issuer memory after after') (after.find? key)
        (after'.find? key) := by
  obtain ⟨bundle, fetched, accepted, all⟩ := yields_activity_iff.mp success
  have sound := reachable.sound
  have apart : undertaking.objects.Pairwise (undertaking.pass bundle).Apart := distinct
  have apart' : reordered.Pairwise (undertaking.pass bundle).Apart := by
    refine apart.perm perm fun {first second} differ key key' atKey atKey' => ?_
    rw [ObjectKey.same_comm]
    exact differ key' key atKey' atKey
  have each := Pass.fits_of_yields sound apart all (fun _ _ _ _ => rfl)
    ⟨Nat.le_refl _, Nat.le_refl _⟩
  -- The results of the first pass are the only ones that fit, so they are those of the second.
  have functional : Relator.RightUnique fun declared result => ∃ desired key,
      (undertaking.pass bundle).Fits memory declared desired key result := by
    rintro declared result result' ⟨_, _, fits⟩ ⟨_, _, fits'⟩
    exact fits.unique fits'
  obtain ⟨established, rfl, fits⟩ := Pass.exists_eq_map functional
    (each.imp fun _ _ ⟨desired, key, fits, _⟩ => ⟨desired, key, fits⟩)
  have each' : List.Forall₂ (fun declared result => ∃ desired key,
      (undertaking.pass bundle).Fits memory declared desired key result) reordered
      (reordered.map established) := by
    refine List.forall₂_map_right_iff.mpr (List.forall₂_same.mpr fun declared member => ?_)
    exact fits declared (perm.mem_iff.mpr member)
  obtain ⟨after', all'⟩ := Pass.exists_yields_of_fits issuer sound apart' each'
    (fun _ _ _ _ => rfl)
  refine ⟨_, after', yields_activity_iff.mpr ⟨bundle, fetched, ?_, all'⟩,
    ⟨established, rfl, rfl⟩, Pass.counterparts_of_yields sound apart apart' perm all all'⟩
  exact fun none declared member => accepted none declared (perm.mem_iff.mpr member)

/-- Two objects that a store does not hold yet are created in either order, and get other
identifiers in the other order. -/
theorem order_independent_ofNames : ∃ results after results' after',
    Yields (Memory.answer Memory.numerals) (Memory.empty true)
      (ofNames "r" ["a", "b"] true).activity results after ∧
    Yields (Memory.answer Memory.numerals) (Memory.empty true)
      (ofNames "r" ["b", "a"] true).activity results' after' ∧
    (∃ established : Value → Established, results = [bare "a", bare "b"].map established ∧
      results' = [bare "b", bare "a"].map established) ∧
    (∀ key, Option.Rel (Memory.Counterparts Memory.numerals (Memory.empty true) after after')
      (after.find? key) (after'.find? key)) ∧
    after.find? ⟨.null, .text "Thing", .text "v1", .text "a"⟩ ≠
      after'.find? ⟨.null, .text "Thing", .text "v1", .text "a"⟩ := by
  have start : Memory.Reachable Memory.numerals (Memory.empty true) :=
    .start (show Memory.ofResources Memory.numerals true [] = .ok _ from rfl)
  have first : (ofNames "r" ["a", "b"] true).finalKey (bare "a") =
      .ok ⟨.null, .text "Thing", .text "v1", .text "a"⟩ := rfl
  have second : (ofNames "r" ["a", "b"] true).finalKey (bare "b") =
      .ok ⟨.null, .text "Thing", .text "v1", .text "b"⟩ := rfl
  have distinct : [bare "a", bare "b"].Pairwise (ofNames "r" ["a", "b"] true).Apart := by
    refine List.pairwise_pair.mpr ?_
    intro key key' atKey atKey'
    obtain rfl := Except.ok.inj (first.symm.trans atKey)
    obtain rfl := Except.ok.inj (second.symm.trans atKey')
    rfl
  have perm : [bare "a", bare "b"].Perm [bare "b", bare "a"] := .swap _ _ _
  obtain ⟨results', after', success, results, counterparts⟩ :=
    order_independent (ofNames "r" ["a", "b"] true) start distinct perm ⟨rfl, rfl⟩
  refine ⟨_, _, results', after', ⟨rfl, rfl⟩, success, results, counterparts, ?_⟩
  obtain ⟨_, rfl⟩ := success
  intro same
  have identifiers : some (some (Value.text "1")) = some (some (Value.text "2")) :=
    congrArg (Option.map fun object : Value => Fields.get? object.metadata "uid") same
  simp at identifiers

end Undertaking

end ManifestOwnership
