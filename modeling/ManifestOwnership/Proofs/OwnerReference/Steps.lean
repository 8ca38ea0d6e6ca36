import ManifestOwnership.Proofs.OwnerReference.Laws
import ManifestOwnership.Proofs.OwnerReference.Twins

/-! # Lists of owners over many steps

A list of owners lives through many steps: references join it, parents take control, and parents are
merged in either way. `Changes` says what one step does to a list with every key once and at most
one controller, and that the list stays like that; by induction it is so after every step of any
sequence. Keys are compared as values are and flags by whether they count as given, so a flag may be
any value. Only a reference that joins as it is could bring a second controller, so it must not
claim control.
-/

namespace ManifestOwnership.OwnerReference

/-- A step of work on a list of owners. -/
inductive Step where
  /-- A reference joins as it is. -/
  | join (ref : OwnerReference)
  /-- A reference becomes the sole controller. -/
  | takeControl (ref : OwnerReference)
  /-- A parent is merged, as the controller or as a mere owner. -/
  | merge (parent : OwnerReference) (control : Bool)

namespace Step

def apply : Step → List OwnerReference → List OwnerReference
  | join ref, refs => ref.join refs
  | takeControl ref, refs => ref.takeControl refs
  | merge parent control, refs => parent.merge control refs

/-- The step's reference, with the flags that it has in the list after that. -/
def written : Step → OwnerReference
  | join ref => ref
  | takeControl ref => ref.asController
  | merge parent control => if control then parent.asController else parent.asOwner

def controls : Step → Bool
  | join _ => false
  | takeControl _ => true
  | merge _ control => control

/-- A reference that joins as it is does not claim control; all other steps are admissible. -/
def Admissible : Step → Prop
  | join ref => ref.isController = false
  | takeControl _ => True
  | merge _ _ => True

def run (steps : List Step) (refs : List OwnerReference) : List OwnerReference :=
  steps.foldl (fun current step => step.apply current) refs

theorem run_append (past future : List Step) (refs : List OwnerReference) :
    run (past ++ future) refs = run future (run past refs) :=
  List.foldl_append ..

end Step

/-- Whether two lists have the same keys in the same order. -/
def SameKeys : List OwnerReference → List OwnerReference → Prop :=
  List.Forall₂ fun first second => first.sameKey second = true

/-- What a step makes of a list of owners, where `written` is the reference it leaves. -/
structure Changes (written : OwnerReference) (control : Bool)
    (before after : List OwnerReference) : Prop where
  orderly : Orderly after
  keys : SameKeys after (if before.any (·.sameKey written) then before else before ++ [written])
  others : after.filter (fun ref => !ref.sameKey written) =
    (before.filter fun ref => !ref.sameKey written).map fun ref =>
      if control then ref.freed else ref
  own : after.filter (·.sameKey written) = [written]
  sole : control = true → after.filter isController = [written]

variable {ref : OwnerReference} {refs : List OwnerReference} {step : Step} {steps : List Step}

private theorem sameKeys_join_map {change : OwnerReference → OwnerReference}
    (keeps : ∀ first second, (change first).sameKey second = first.sameKey second)
    (ref : OwnerReference) (refs : List OwnerReference) :
    SameKeys (ref.join (refs.map change))
      (if refs.any (·.sameKey ref) then refs else refs ++ [ref]) := by
  have met : (refs.map change).any (·.sameKey ref) = refs.any (·.sameKey ref) := by
    simp [Function.comp_def, keeps]
  cases present : refs.any (·.sameKey ref) with
  | true =>
    rw [join_of_any (met.trans present), if_pos rfl, SameKeys, List.map_map,
      List.forall₂_map_left_iff, List.forall₂_same]
    intro existing _
    rw [Function.comp_apply]
    split_ifs with same
    · rw [keeps] at same
      exact sameKey_symm same
    · rw [keeps, sameKey_refl]
  | false =>
    rw [join_of_not_any (met.trans present), if_neg Bool.false_ne_true]
    refine List.rel_append ?_ (.cons (sameKey_refl ref) .nil)
    rw [List.forall₂_map_left_iff, List.forall₂_same]
    intro existing _
    rw [keeps, sameKey_refl]

private theorem own_join (distinct : (ref.join refs).Pairwise fun first second =>
    first.sameKey second = false) : (ref.join refs).filter (·.sameKey ref) = [ref] := by
  have copies := filter_sameKey_join ref refs
  have apart := distinct.filter (·.sameKey ref)
  rw [copies, List.pairwise_replicate] at apart
  have once : max 1 (refs.countP (·.sameKey ref)) = 1 := by
    obtain few | loop := apart
    · omega
    · simp at loop
  rw [copies, once, List.replicate_one]

/-- What a reference without a claim to control makes of a list that it joins. -/
theorem changes_join (orderly : Orderly refs) (mere : ref.isController = false) :
    Changes ref false refs (ref.join refs) where
  orderly := ⟨distinct_join orderly.distinct,
    Nat.le_trans (countP_join_le mere) orderly.controller⟩
  keys := by simpa using sameKeys_join_map (fun _ _ => rfl) ref refs
  others := by simpa using filter_join ref refs
  own := own_join (distinct_join orderly.distinct)
  sole control := by contradiction

/-- What a reference makes of a list that it takes control of. -/
theorem changes_takeControl (ref : OwnerReference) (orderly : Orderly refs) :
    Changes ref.asController true refs (ref.takeControl refs) := by
  have controlled : Orderly (ref.takeControl refs) := orderly_takeControl orderly.distinct
  have own : (ref.takeControl refs).filter (·.sameKey ref) = [ref.asController] := by
    rw [takeControl_eq] at controlled ⊢
    exact own_join controlled.distinct
  refine ⟨controlled, ?_, ?_, own, fun _ => ?_⟩
  · rw [takeControl_eq_join_freed]
    exact sameKeys_join_map freed_sameKey ref.asController refs
  · rw [takeControl_eq_join_freed, filter_join, List.filter_map]
    simp [Function.comp_def]
  · rw [filter_isController_takeControl, own]

/-- What a step makes of a list. -/
theorem Step.changes_apply (orderly : Orderly refs) (admissible : step.Admissible) :
    Changes step.written step.controls refs (step.apply refs) := by
  cases step with
  | join ref => exact changes_join orderly admissible
  | takeControl ref => exact changes_takeControl ref orderly
  | merge parent control =>
    cases control with
    | true => exact changes_takeControl parent orderly
    | false => exact changes_join orderly (isController_asOwner parent)

/-- A list that has every key once and at most one controller stays like that over many steps. -/
theorem Step.orderly_run (orderly : Orderly refs) (admissible : ∀ step ∈ steps, step.Admissible) :
    Orderly (Step.run steps refs) := by
  induction steps generalizing refs with
  | nil => exact orderly
  | cons step rest ih =>
    obtain ⟨here, others⟩ := List.forall_mem_cons.mp admissible
    exact ih (changes_apply orderly here).orderly others

/-- Each step of a sequence leaves every key once and at most one controller. It keeps the keys in
order, with its own at the end if that is new, and the references of other keys, but for their claim
to control if it takes control. Its own reference is then the one controller. -/
theorem Step.changes_run (orderly : Orderly refs) (admissible : ∀ step ∈ steps, step.Admissible) :
    ∀ past step future, steps = past ++ step :: future →
      Changes step.written step.controls (run past refs) (run (past ++ [step]) refs) := by
  rintro past step future rfl
  obtain ⟨before, rest⟩ := List.forall_mem_append.mp admissible
  rw [run_append]
  exact changes_apply (orderly_run orderly before) (List.forall_mem_cons.mp rest).1

/-- A revision that claims control by a number, and whose uid is a number. -/
def revisionB : OwnerReference :=
  ⟨.text "pkg.crossplane.io/v1", .text "ProviderRevision", .text "b", .int 1, .int 1, .null⟩

/-- A reference to the same revision, as the uid counts as the same number. -/
def revisionB' : OwnerReference :=
  { revisionB with uid := .bool true, controller := .null }

/-- A nameless reference joins and revision `b` is merged as a mere owner. -/
def Step.opening : List Step := [join .empty, merge revisionB' false]

/-- Revision `a` takes control of a list in which revision `b` had it at first. -/
theorem Step.changes_run_opening :
    Orderly [revisionB, revisionA] ∧
      (∀ step ∈ opening ++ takeControl revisionA :: [merge .empty true], step.Admissible) ∧
      Changes revisionA.asController true (run opening [revisionB, revisionA])
        (run (opening ++ [takeControl revisionA]) [revisionB, revisionA]) ∧
      run (opening ++ [takeControl revisionA]) [revisionB, revisionA] =
        [revisionB'.asOwner, revisionA.asController, .empty] := by
  have orderly : Orderly [revisionB, revisionA] := ⟨by decide, by decide⟩
  have admissible : ∀ step ∈ opening ++ takeControl revisionA :: [merge .empty true],
      step.Admissible := by
    simp [opening, Admissible, isController, empty, Value.truthy]
  exact ⟨orderly, admissible, changes_run orderly admissible opening _ _ rfl, rfl⟩

end ManifestOwnership.OwnerReference
