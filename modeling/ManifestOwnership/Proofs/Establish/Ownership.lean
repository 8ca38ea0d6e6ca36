import ManifestOwnership.Proofs.Store.Course
import ManifestOwnership.Proofs.Establish.Failure
import ManifestOwnership.Proofs.Establish.Joining

/-! # What a pass without control touches

A pass that does not take control creates no object and changes nothing of those that are there but
their owners: the revision joins them. This also holds of a pass that fails, since it leaves the
store as a successful pass over its first objects does.
-/

namespace ManifestOwnership

open Store Interaction

variable {issuer : Issuer} {memory : Memory}

namespace Undertaking

/-- What a pass without control makes of an object that it finds, given what it has asked. -/
structure TouchesOwners (undertaking : Undertaking)
    (exchanges : List (Request × Except Fault Value)) (key : ObjectKey) (object object' : Value) :
    Prop where
  content : Manifest.Agree ["ownerReferences", "resourceVersion"] object' object
  undeclared : ¬ undertaking.Declares key → object' = object
  unwritten : ¬ Memory.Written exchanges key → object' = object
  written : Memory.Written exchanges key →
    Manifest.Joined undertaking.parent.reference object object'

/-- Whether it succeeds or not, a pass without control touches the objects that it declares and no
others. -/
theorem touched_of_run (issuer : Issuer) (undertaking : Undertaking) (sound : memory.Sound)
    (mere : undertaking.takesControl = false) (key : ObjectKey) :
    Option.Rel (Manifest.Touched undertaking.parent.reference (undertaking.Declares key))
      (memory.find? key)
      ((undertaking.activity.run (Memory.answer issuer) memory).state.find? key) := by
  obtain unchanged | ⟨count, results, success⟩ := exists_first issuer undertaking sound
  · rw [unchanged]
    cases memory.find? key with
    | none => exact .none
    | some object => exact .some .untouched
  · obtain ⟨bundle, _, _, all⟩ := yields_activity_iff.mp success
    have mere' : (undertaking.pass bundle).takesControl = false := mere
    refine Pass.touched_of_yields mere' sound all ?_
    intro declared member own final same
    exact ⟨declared, List.mem_of_mem_take member, own, final, same⟩

/-- Whether it succeeds or fails, a pass without control keeps the identities of a store, and
touches of the objects there nothing but the owners of those that it writes. -/
theorem touches_owners (undertaking : Undertaking) (reachable : memory.Reachable issuer)
    (mere : undertaking.takesControl = false) (key : ObjectKey) :
    Option.Rel (undertaking.TouchesOwners
        (undertaking.activity.run (Memory.answer issuer) memory).exchanges key)
      (memory.find? key)
      ((undertaking.activity.run (Memory.answer issuer) memory).state.find? key) := by
  have sound := reachable.sound
  have touched := undertaking.touched_of_run issuer sound mere key
  have course := Memory.find?_of_answers sound
    (answers_run (Memory.answer issuer) memory undertaking.activity) key
  generalize (undertaking.activity.run (Memory.answer issuer) memory).state.find? key = left
    at touched course ⊢
  cases found : memory.find? key with
  | none =>
    rw [found] at touched
    cases touched with
    | none => exact .none
  | some object =>
    rw [found] at touched course
    cases touched with
    | @some _ object' touched =>
      refine .some ⟨?_, fun undeclared => ?_, fun unwritten => ?_, fun written => ?_⟩
      · cases touched with
        | untouched => exact .refl (sound.held key object found).formed
        | joined _ content _ => exact content
      · cases touched with
        | untouched => rfl
        | joined declares _ _ => exact absurd declares undeclared
      · obtain ⟨_, same⟩ | ⟨written, _⟩ := course
        · exact Option.some.inj same
        · exact absurd written unwritten
      · obtain ⟨unwritten, _⟩ | ⟨_, stored, same, new⟩ := course
        · exact absurd written unwritten
        · obtain rfl := Option.some.inj same
          cases touched with
          | untouched => exact absurd rfl (new.ne_of_find? sound found)
          | joined _ _ owners => exact owners

/-- A revision joins the owners of one object and leaves out one that is not there. -/
theorem touches_owners_ofNames : ∃ memory course object object',
    memory = ((Memory.empty true).answer Memory.numerals (.create (bare "a"))).state ∧
    (ofNames "r" ["a", "b"] false).activity.run (Memory.answer Memory.numerals) memory = course ∧
    memory.find? ⟨.null, .text "Thing", .text "v1", .text "a"⟩ = some object ∧
    course.state.find? ⟨.null, .text "Thing", .text "v1", .text "a"⟩ = some object' ∧
    course.exchanges.length = 3 ∧
    (ofNames "r" ["a", "b"] false).TouchesOwners course.exchanges
      ⟨.null, .text "Thing", .text "v1", .text "a"⟩ object object' := by
  have start : Memory.Reachable Memory.numerals (Memory.empty true) :=
    .start (show Memory.ofResources Memory.numerals true [] = .ok _ from rfl)
  have related := touches_owners (ofNames "r" ["a", "b"] false)
    (start.answer (.create (bare "a"))) rfl ⟨.null, .text "Thing", .text "v1", .text "a"⟩
  exact ⟨_, _, _, _, rfl, rfl, rfl, rfl, rfl, Option.rel_some_some.mp related⟩

end Undertaking

end ManifestOwnership
