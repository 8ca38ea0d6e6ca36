import ManifestOwnership.Proofs.OwnerReference.Merge

/-! # The laws of merging

Merging depends on little of what was merged before. A parent that is merged again leaves what its
last merge leaves, and once a second parent takes control nothing tells whether the first one had
control or was a mere owner: its claim is released where it stands. The laws hold of every list,
with keys that are there several times and with several controllers, and they are equalities of
lists: positions, keys and flags are the same. They come from two facts, that `join` can be moved
past a change of flags (`map_join`) and that `takeControl` sees a list only with every claim
released (`takeControl_eq`).
-/

namespace ManifestOwnership.OwnerReference

variable {ref other existing : OwnerReference} {refs : List OwnerReference}
  {change change' : OwnerReference → OwnerReference}

/-- The reference without any claim to control. One that has no claim stays as it is. -/
def freed (ref : OwnerReference) : OwnerReference :=
  if ref.isController then ref.released else ref

@[simp] theorem freed_sameKey (first second : OwnerReference) :
    first.freed.sameKey second = first.sameKey second := by
  unfold freed
  split_ifs <;> rfl

@[simp] theorem isController_freed (ref : OwnerReference) : ref.freed.isController = false := by
  cases control : ref.isController <;> simp [freed, control]

@[simp] theorem freed_freed (ref : OwnerReference) : ref.freed.freed = ref.freed := by
  rw [freed, isController_freed]
  rfl

@[simp] theorem freed_asOwner (ref : OwnerReference) : ref.asOwner.freed = ref.asOwner := rfl

/-- A controller that is released is a mere owner. -/
@[simp] theorem freed_asController (ref : OwnerReference) : ref.asController.freed = ref.asOwner :=
  rfl

/-- A reference of another key yields exactly its claim to control. -/
theorem yielded_of_other (apart : existing.sameKey ref = false) :
    ref.yielded existing = existing.freed := by
  simp [yielded, yieldsTo, freed, apart]

/-- References of one key are met at the same places. -/
theorem sameKey_congr (same : other.sameKey ref = true) (existing : OwnerReference) :
    existing.sameKey other = existing.sameKey ref :=
  Bool.eq_iff_iff.mpr ⟨fun left => sameKey_trans left same,
    fun left => sameKey_trans left (sameKey_symm same)⟩

/-- A reference takes each place of its key, and one more if there is none. -/
theorem join_eq (ref : OwnerReference) (refs : List OwnerReference) :
    ref.join refs = (refs.map fun existing => if existing.sameKey ref then ref else existing) ++
      if refs.any (·.sameKey ref) then [] else [ref] := by
  cases present : refs.any (·.sameKey ref) <;> simp [join, present]

/-- What keeps the keys can be done before a reference joins as well as after that. -/
theorem map_join (keeps : ∀ first second, (change first).sameKey second = first.sameKey second) :
    (ref.join refs).map change = (change ref).join (refs.map change) := by
  have sameAs (existing : OwnerReference) :
      existing.sameKey (change ref) = existing.sameKey ref := by
    rw [sameKey_comm, keeps, sameKey_comm]
  have met : (refs.map change).any (·.sameKey (change ref)) = refs.any (·.sameKey ref) := by
    simp [Function.comp_def, keeps, sameAs]
  rw [join_eq, join_eq, met, List.map_append, List.map_map, List.map_map]
  congr 1
  · refine List.map_congr_left fun existing _ => ?_
    simp only [Function.comp_apply, keeps, sameAs]
    split_ifs <;> rfl
  · split_ifs <;> rfl

/-- A reference that joins hides what was done to the references of its key. -/
theorem join_map_congr
    (keeps : ∀ first second, (change first).sameKey second = first.sameKey second)
    (keeps' : ∀ first second, (change' first).sameKey second = first.sameKey second)
    (agree : ∀ existing ∈ refs, existing.sameKey ref = false → change existing = change' existing) :
    ref.join (refs.map change) = ref.join (refs.map change') := by
  have met : (refs.map change).any (·.sameKey ref) = (refs.map change').any (·.sameKey ref) := by
    simp [Function.comp_def, keeps, keeps']
  rw [join_eq, join_eq, met, List.map_map, List.map_map]
  congr 1
  refine List.map_congr_left fun existing member => ?_
  simp only [Function.comp_apply, keeps, keeps']
  split_ifs with same
  · rfl
  · exact agree existing member (by simpa using same)

/-- Of two references of one key that join, the last one is left. -/
theorem join_join_of_sameKey (same : other.sameKey ref = true) (refs : List OwnerReference) :
    ref.join (other.join refs) = ref.join refs := by
  have joined : (other.join refs).any (·.sameKey ref) = true :=
    List.any_eq_true.mpr ⟨other, mem_join_iff.mpr (.inl rfl), same⟩
  rw [join_of_any joined, join_eq, join_eq, List.map_append, List.map_map]
  simp only [sameKey_congr same]
  congr 1
  · refine List.map_congr_left fun existing _ => ?_
    rw [Function.comp_apply]
    split_ifs <;> rfl
  · split_ifs <;> simp [same]

/-- A parent takes control of a list as of one in which no reference claims it. -/
theorem takeControl_eq_join_freed (ref : OwnerReference) (refs : List OwnerReference) :
    ref.takeControl refs = ref.asController.join (refs.map freed) := by
  rw [takeControl_eq]
  exact join_map_congr (yielded_sameKey ref) freed_sameKey fun existing _ => yielded_of_other

/-- Without its claims to control, a list that a parent was merged into does not tell whether the
parent took control. -/
theorem map_freed_merge (parent : OwnerReference) (control : Bool) (refs : List OwnerReference) :
    (parent.merge control refs).map freed = parent.asOwner.join (refs.map freed) := by
  cases control with
  | true =>
    have settled : (refs.map freed).map freed = refs.map freed := by
      simp [Function.comp_def]
    change (parent.takeControl refs).map freed = _
    rw [takeControl_eq_join_freed, map_join freed_sameKey, settled, freed_asController]
  | false =>
    change (parent.asOwner.join refs).map freed = _
    rw [map_join freed_sameKey, freed_asOwner]

/-- Who takes control after another parent was merged makes a mere owner of it. -/
theorem takeControl_merge (ref parent : OwnerReference) (control : Bool)
    (refs : List OwnerReference) : ref.takeControl (parent.merge control refs) =
      ref.asController.join (parent.asOwner.join (refs.map freed)) := by
  rw [takeControl_eq_join_freed, map_freed_merge]

/-- A merge that takes control hides an earlier merge of the same parent. -/
theorem takeControl_merge_self (parent : OwnerReference) (control : Bool)
    (refs : List OwnerReference) :
    parent.takeControl (parent.merge control refs) = parent.takeControl refs := by
  calc parent.takeControl (parent.merge control refs)
    _ = parent.asController.join (parent.asOwner.join (refs.map freed)) :=
      takeControl_merge parent parent control refs
    _ = parent.asController.join (refs.map freed) :=
      join_join_of_sameKey (by simp) _
    _ = parent.takeControl refs := (takeControl_eq_join_freed parent refs).symm

/-- Merging a parent once more changes nothing. -/
theorem merge_merge (parent : OwnerReference) (control : Bool) (refs : List OwnerReference) :
    parent.merge control (parent.merge control refs) = parent.merge control refs := by
  cases control with
  | true => exact takeControl_merge_self parent true refs
  | false => exact join_join_of_sameKey (sameKey_refl parent.asOwner) refs

/-- A parent that is merged twice leaves what the second merge leaves, if it is the same merge or
one that takes control. When another parent takes control, a list in which the first one had control
and a list in which it was a mere owner become the same. -/
theorem merge_laws (parent next : OwnerReference) (refs : List OwnerReference) :
    (∀ control, parent.merge control (parent.merge control refs) = parent.merge control refs) ∧
      (∀ control, parent.merge true (parent.merge control refs) = parent.merge true refs) ∧
      next.merge true (parent.merge true refs) = next.merge true (parent.merge false refs) := by
  refine ⟨fun control => merge_merge parent control refs,
    fun control => takeControl_merge_self parent control refs, ?_⟩
  calc next.takeControl (parent.merge true refs)
    _ = next.asController.join (parent.asOwner.join (refs.map freed)) :=
      takeControl_merge next parent true refs
    _ = next.takeControl (parent.merge false refs) :=
      (takeControl_merge next parent false refs).symm

end ManifestOwnership.OwnerReference
