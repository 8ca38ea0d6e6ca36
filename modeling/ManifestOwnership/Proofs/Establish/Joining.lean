import ManifestOwnership.Proofs.Establish.Run

/-! # Passes without control

A pass that does not take control writes no object with the desired content. What it writes is the
object that is there, with the revision among its owners, so that an identity keeps its object up to
the owners and the version.
-/

namespace ManifestOwnership

open Store Interaction

variable {issuer : Issuer} {memory after : Memory} {key : ObjectKey} {parent : OwnerReference}

namespace Manifest

variable {object object' object'' : Value}

/-- An object has become one whose owners a parent has joined. -/
def Joined (parent : OwnerReference) (object object' : Value) : Prop :=
  ∃ refs refs', owners object = .ok refs ∧ owners object' = .ok refs' ∧
    OwnerReference.Joined parent refs refs'

theorem Joined.trans (first : Joined parent object object')
    (second : Joined parent object' object'') : Joined parent object object'' := by
  obtain ⟨refs, refs', owners, owners', joined⟩ := first
  obtain ⟨middle, refs'', same, owners'', joined'⟩ := second
  obtain rfl := Except.ok.inj (owners'.symm.trans same)
  exact ⟨refs, refs'', owners, owners'', joined.trans joined'⟩

/-- What a pass without control makes of an object: nothing, or the parent joins its owners, if the
object is declared. -/
inductive Touched (parent : OwnerReference) (declared : Prop) (object : Value) : Value → Prop where
  | untouched : Touched parent declared object object
  | joined {object' : Value} (declares : declared)
      (content : Agree ["ownerReferences", "resourceVersion"] object' object)
      (owners : Joined parent object object') : Touched parent declared object object'

/-- However it is touched, an object keeps all but its owners and its version. -/
theorem Touched.agree {declared : Prop} (touched : Touched parent declared object object')
    (formed : Formed object) : Agree ["ownerReferences", "resourceVersion"] object' object := by
  cases touched with
  | untouched => exact .refl formed
  | joined _ content _ => exact content

end Manifest

namespace Pass

variable {pass : Pass} {desired stored : Value} {results : List Established}

/-- A mere owner keeps all of the object it is merged into but its owners and its version. -/
theorem Wrote.joins (wrote : Wrote issuer pass memory desired key stored after)
    (mere : pass.takesControl = false) (sound : memory.Sound) {current : Value}
    (found : memory.find? key = some current) :
    Manifest.Agree ["ownerReferences", "resourceVersion"] stored current ∧
      Manifest.Joined pass.parent.reference current stored := by
  have held := sound.held key current found
  have before : memory.before key = current.metadata := sound.before_of_some found
  constructor
  · have content := wrote.content
    have uid := wrote.uid
    have time := wrote.time
    rw [base, if_neg (by simp [mere]), met, found, Option.getD_some] at content uid time
    rw [before] at uid time
    refine content.narrow fun name member kept => ?_
    simp only [adjusted, Memory.managedNames, List.mem_cons, List.not_mem_nil, or_false, not_or]
      at member kept
    rcases member with rfl | rfl | rfl | rfl
    · exact absurd rfl kept.1
    · exact uid.trans (Memory.managed_of_truthy held.identified _ _).1
    · exact time.trans (Memory.managed_of_truthy held.timed _ _).1
    · exact absurd rfl kept.2
  · obtain ⟨refs, owners, merged⟩ := wrote.owners_stored
    rw [met, found, Option.getD_some] at owners
    rw [mere] at merged
    exact ⟨refs, _, owners, merged, OwnerReference.joined_asOwner _ refs⟩

/-- A successful pass without control touches objects that it declares and no others. -/
theorem touched_of_yields {objects : List Value} {declared : Prop}
    (mere : pass.takesControl = false) (sound : memory.Sound)
    (success : Yields (Memory.answer issuer) memory (pass.establishAll objects) results after)
    (declares : ∀ declared' ∈ objects, ∀ own,
      pass.establisher.finalKey pass.settings pass.parent declared' = .ok own →
        own.same key = true → declared) :
    Option.Rel (Manifest.Touched pass.parent.reference declared) (memory.find? key)
      (after.find? key) := by
  have start : Option.Rel (Manifest.Touched pass.parent.reference declared) (memory.find? key)
      (memory.find? key) := by
    cases memory.find? key with
    | none => exact .none
    | some object => exact .some .untouched
  refine yields_establishAll_induction (motive := fun after =>
    Option.Rel (Manifest.Touched pass.parent.reference declared) (memory.find? key)
      (after.find? key)) success sound start ?_
  intro declared' member before after result sound' touched one
  obtain ⟨desired, own, prepared, _, leaves⟩ := leaves_of_yields sound' one
  generalize result.outcome = outcome at leaves
  cases leaves with
  | skipped => exact touched
  | @wrote stored _ writes wrote =>
    rw [wrote.found]
    split_ifs with here
    · have there : before.find? own = before.find? key := Content.find?_congr here
      obtain ⟨current, found⟩ : ∃ current, before.find? own = some current := by
        rw [← Option.isSome_iff_exists]
        simpa [skips, mere] using writes
      obtain ⟨content, owners⟩ := wrote.joins mere sound' found
      rw [there] at found
      rw [found] at touched
      generalize memory.find? key = start at touched ⊢
      have declares := declares declared' member own prepared.finalKey_eq here
      cases touched with
      | some touched =>
        cases touched with
        | untouched => exact .some (.joined declares content owners)
        | joined _ content' owners' =>
          exact .some (.joined declares (content.trans content') (owners'.trans owners))
    · exact touched

end Pass

end ManifestOwnership
