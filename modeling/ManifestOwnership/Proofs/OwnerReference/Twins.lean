import ManifestOwnership.Proofs.OwnerReference.Merge

/-! # References that are there more than once

A list of owners comes from the cluster or from a manifest, and nothing keeps a reference from
standing in it several times. Merging replaces each reference of the parent's key where it stands
and drops none: the parent is then among the owners as often as before, or once if it was not there.
All these references are alike, and when the parent takes control each of them claims control and no
other one does. So a list is left with one controller exactly if the parent was in it once at most.
-/

namespace ManifestOwnership.OwnerReference

/-- To join a list leaves as many references of the key as there were, and at least one. -/
theorem countP_sameKey_join (ref : OwnerReference) (refs : List OwnerReference) :
    (ref.join refs).countP (·.sameKey ref) = max 1 (refs.countP (·.sameKey ref)) := by
  cases present : refs.any (·.sameKey ref) with
  | true =>
    have some : 0 < refs.countP (·.sameKey ref) := by simpa [List.countP_pos_iff] using present
    rw [join_of_any present, List.countP_map, Nat.max_eq_right some]
    refine List.countP_congr fun existing _ => ?_
    rw [Function.comp_apply]
    split_ifs with same <;> simp [same]
  | false =>
    have none : refs.countP (·.sameKey ref) = 0 := by
      rw [List.countP_eq_zero]
      simpa using present
    rw [join_of_not_any present, List.countP_append, none]
    simp

/-- The references of the key are all the one that joined. -/
theorem filter_sameKey_join (ref : OwnerReference) (refs : List OwnerReference) :
    (ref.join refs).filter (·.sameKey ref) =
      List.replicate (max 1 (refs.countP (·.sameKey ref))) ref := by
  rw [List.eq_replicate_iff, ← List.countP_eq_length_filter, countP_sameKey_join]
  refine ⟨rfl, fun existing member => ?_⟩
  obtain ⟨there, same⟩ := List.mem_filter.mp member
  obtain joined | ⟨_, other⟩ := mem_join_iff.mp there
  · exact joined
  · simp [other] at same

/-- To take control leaves the references of the key, each of them as the controller. -/
theorem filter_sameKey_takeControl (ref : OwnerReference) (refs : List OwnerReference) :
    (ref.takeControl refs).filter (·.sameKey ref) =
      List.replicate (max 1 (refs.countP (·.sameKey ref))) ref.asController := by
  have joined := filter_sameKey_join ref.asController (refs.map ref.yielded)
  rw [List.countP_map] at joined
  simpa [takeControl_eq, Function.comp_def] using joined

/-- The controllers of a list under control are the references of the key. -/
theorem filter_isController_takeControl (ref : OwnerReference) (refs : List OwnerReference) :
    (ref.takeControl refs).filter isController = (ref.takeControl refs).filter (·.sameKey ref) := by
  have ruled := ruled_takeControl ref refs
  refine List.filter_congr fun existing member => Bool.eq_iff_iff.mpr ⟨?_, fun same => ?_⟩
  · exact ruled.sole existing member
  · exact (ruled.flagged existing member same).mpr trivial

/-- A merge leaves the parent among the owners as often as it was there, and once if it was not.
With control each of these references is a controller, and there are no others. -/
theorem merge_keeps_twins (parent : OwnerReference) (refs : List OwnerReference) :
    (parent.merge true refs).filter (·.sameKey parent) =
        List.replicate (max 1 (refs.countP (·.sameKey parent))) parent.asController ∧
      (parent.merge true refs).filter isController =
        List.replicate (max 1 (refs.countP (·.sameKey parent))) parent.asController ∧
      (parent.merge false refs).filter (·.sameKey parent) =
        List.replicate (max 1 (refs.countP (·.sameKey parent))) parent.asOwner := by
  refine ⟨filter_sameKey_takeControl parent refs, ?_, ?_⟩
  · exact (filter_isController_takeControl parent refs).trans
      (filter_sameKey_takeControl parent refs)
  · simpa [merge] using filter_sameKey_join parent.asOwner refs

def revisionA : OwnerReference :=
  ⟨.text "pkg.crossplane.io/v1", .text "ProviderRevision", .text "a", .text "uid-a", .bool false,
    .bool true⟩

/-- A parent that stands in a list twice still does so after a merge, and if it takes control it is
the controller twice. -/
theorem twins_not_healed :
    (revisionA.merge true [revisionA, revisionA]).countP (·.sameKey revisionA) ≠ 1 ∧
      (revisionA.merge true [revisionA, revisionA]).countP isController ≠ 1 ∧
      (revisionA.merge false [revisionA, revisionA]).countP (·.sameKey revisionA) ≠ 1 := by
  decide

end ManifestOwnership.OwnerReference
