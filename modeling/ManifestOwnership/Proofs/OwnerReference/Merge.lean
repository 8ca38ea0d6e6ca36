import ManifestOwnership.OwnerReference.Merge
import ManifestOwnership.Proofs.OwnerReference.Codec
import ManifestOwnership.Proofs.Value.Equality

/-! # What merging makes of a list of owners

`mem_join_iff` and `mem_takeControl_iff` name the references that a merge leaves. It follows from
them that no owner is lost and that a list that is `Orderly`, with every key once and at most one
controller, stays so. In a list that is `Ruled`, whoever took control last is known.
-/

namespace ManifestOwnership.OwnerReference

variable {ref existing : OwnerReference} {refs : List OwnerReference}

@[simp] theorem sameKey_asController (first second : OwnerReference) :
    first.sameKey second.asController = first.sameKey second := rfl

@[simp] theorem asController_sameKey (first second : OwnerReference) :
    first.asController.sameKey second = first.sameKey second := rfl

@[simp] theorem sameKey_asOwner (first second : OwnerReference) :
    first.sameKey second.asOwner = first.sameKey second := rfl

@[simp] theorem asOwner_sameKey (first second : OwnerReference) :
    first.asOwner.sameKey second = first.sameKey second := rfl

@[simp] theorem released_sameKey (first second : OwnerReference) :
    first.released.sameKey second = first.sameKey second := rfl

@[simp] theorem sameKey_released (first second : OwnerReference) :
    first.sameKey second.released = first.sameKey second := rfl

@[simp] theorem isController_asController (ref : OwnerReference) :
    ref.asController.isController = true := rfl

@[simp] theorem isController_asOwner (ref : OwnerReference) : ref.asOwner.isController = false :=
  rfl

@[simp] theorem isController_released (ref : OwnerReference) : ref.released.isController = false :=
  rfl

/-- The reference without its claim to control, if another one takes control. -/
def yielded (ref existing : OwnerReference) : OwnerReference :=
  if ref.yieldsTo existing then existing.released else existing

@[simp] theorem yielded_sameKey (ref first second : OwnerReference) :
    (ref.yielded first).sameKey second = first.sameKey second := by
  unfold yielded
  split_ifs <;> rfl

@[simp] theorem sameKey_yielded (ref first second : OwnerReference) :
    first.sameKey (ref.yielded second) = first.sameKey second := by
  unfold yielded
  split_ifs <;> rfl

theorem isController_yielded (ref : OwnerReference) (other : existing.sameKey ref = false) :
    (ref.yielded existing).isController = false := by
  unfold yielded yieldsTo
  cases control : existing.isController <;> simp [other, control]

theorem Plain.yielded (plain : existing.Plain) : (ref.yielded existing).Plain := by
  unfold OwnerReference.yielded
  split_ifs
  · exact plain.released
  · exact plain

/-- A list with a reference of the key holds the new one in its place. -/
theorem join_of_any (present : refs.any (·.sameKey ref) = true) :
    ref.join refs = refs.map fun existing => if existing.sameKey ref then ref else existing := by
  simp [join, present]

/-- A list without a reference of the key gets the new one at its end. -/
theorem join_of_not_any (absent : refs.any (·.sameKey ref) = false) :
    ref.join refs = refs ++ [ref] := by
  have others : ∀ existing ∈ refs, existing.sameKey ref = false := by simpa using absent
  have unchanged : (refs.map fun existing => if existing.sameKey ref then ref else existing) =
      refs := by
    rw [List.map_congr_left (g := id), List.map_id]
    intro existing member
    simp [others existing member]
  simp [join, absent, unchanged]

/-- A list with a reference joined holds that one and the references of other keys. -/
theorem mem_join_iff : existing ∈ ref.join refs ↔
    existing = ref ∨ (existing ∈ refs ∧ existing.sameKey ref = false) := by
  cases present : refs.any (·.sameKey ref) with
  | true =>
    rw [join_of_any present, List.mem_map]
    constructor
    · rintro ⟨source, member, rfl⟩
      split_ifs with same
      · exact .inl rfl
      · exact .inr ⟨member, by simpa using same⟩
    · rintro (rfl | ⟨member, other⟩)
      · obtain ⟨source, member, same⟩ := List.any_eq_true.mp present
        exact ⟨source, member, if_pos same⟩
      · exact ⟨existing, member, by simp [other]⟩
  | false =>
    have others : ∀ existing ∈ refs, existing.sameKey ref = false := by simpa using present
    rw [join_of_not_any present, List.mem_append, List.mem_singleton]
    constructor
    · rintro (member | rfl)
      · exact .inr ⟨member, others existing member⟩
      · exact .inl rfl
    · rintro (rfl | ⟨member, _⟩)
      · exact .inr rfl
      · exact .inl member

theorem takeControl_eq (ref : OwnerReference) (refs : List OwnerReference) :
    ref.takeControl refs = ref.asController.join (refs.map ref.yielded) := rfl

/-- A list under control holds the controller and the references of other keys, which no longer
claim control. -/
theorem mem_takeControl_iff : existing ∈ ref.takeControl refs ↔ existing = ref.asController ∨
    ∃ source ∈ refs, source.sameKey ref = false ∧ ref.yielded source = existing := by
  rw [takeControl_eq, mem_join_iff, List.mem_map]
  constructor
  · rintro (same | ⟨⟨source, member, rfl⟩, other⟩)
    · exact .inl same
    · exact .inr ⟨source, member, by simpa using other, rfl⟩
  · rintro (same | ⟨source, member, other, rfl⟩)
    · exact .inl same
    · exact .inr ⟨⟨source, member, rfl⟩, by simpa using other⟩

/-- The parent is among the owners it is merged into. -/
theorem exists_mem_merge (ref : OwnerReference) (control : Bool) (refs : List OwnerReference) :
    ∃ merged ∈ ref.merge control refs, merged.sameKey ref = true := by
  cases control with
  | true => exact ⟨_, mem_takeControl_iff.mpr (.inl rfl), sameKey_refl ref⟩
  | false => exact ⟨_, mem_join_iff.mpr (.inl rfl), sameKey_refl ref⟩

/-- No owner is lost by a merge. -/
theorem exists_mem_merge_of_mem (ref : OwnerReference) (control : Bool)
    (member : existing ∈ refs) : ∃ merged ∈ ref.merge control refs,
      merged.sameKey existing = true := by
  cases same : existing.sameKey ref with
  | true =>
    obtain ⟨merged, there, isRef⟩ := exists_mem_merge ref control refs
    exact ⟨merged, there, sameKey_trans isRef (sameKey_symm same)⟩
  | false =>
    cases control with
    | true =>
      exact ⟨_, mem_takeControl_iff.mpr (.inr ⟨existing, member, same, rfl⟩), by simp⟩
    | false => exact ⟨existing, mem_join_iff.mpr (.inr ⟨member, same⟩), sameKey_refl existing⟩

theorem plain_merge (control : Bool) (plain : ref.Plain) (plains : ∀ ref ∈ refs, ref.Plain) :
    ∀ merged ∈ ref.merge control refs, merged.Plain := by
  intro merged member
  cases control with
  | true =>
    obtain rfl | ⟨source, there, _, rfl⟩ := mem_takeControl_iff.mp member
    · exact plain.asController
    · exact (plains source there).yielded
  | false =>
    obtain rfl | ⟨there, _⟩ := mem_join_iff.mp member
    · exact plain.asOwner
    · exact plains merged there

/-- Every key stands in a list once, and at most one reference claims control. -/
structure Orderly (refs : List OwnerReference) : Prop where
  distinct : refs.Pairwise fun first second => first.sameKey second = false
  controller : refs.countP isController ≤ 1

private theorem distinct_join_of_any (present : refs.any (·.sameKey ref) = true)
    (distinct : refs.Pairwise fun first second => first.sameKey second = false) :
    (ref.join refs).Pairwise fun first second => first.sameKey second = false := by
  rw [join_of_any present, List.pairwise_map]
  refine distinct.imp fun {first second} other => ?_
  split_ifs with same same' same'
  · exact absurd (sameKey_trans same (sameKey_symm same')) (by simp [other])
  · rw [sameKey_comm]
    simpa using same'
  · simpa using same
  · exact other

/-- Joining a reference leaves every key once. -/
theorem distinct_join
    (distinct : refs.Pairwise fun first second => first.sameKey second = false) :
    (ref.join refs).Pairwise fun first second => first.sameKey second = false := by
  cases present : refs.any (·.sameKey ref) with
  | true => exact distinct_join_of_any present distinct
  | false =>
    rw [join_of_not_any present, List.pairwise_append]
    refine ⟨distinct, List.pairwise_singleton _ _, ?_⟩
    intro existing member last same
    obtain rfl := List.mem_singleton.mp same
    simpa using List.any_eq_false.mp present existing member

private theorem countP_le_one_of_sameKey (ref : OwnerReference)
    (distinct : refs.Pairwise fun first second => first.sameKey second = false)
    (one : ∀ existing ∈ refs, existing.isController = true → existing.sameKey ref = true) :
    refs.countP isController ≤ 1 := by
  induction refs with
  | nil => simp
  | cons first rest ih =>
    obtain ⟨apart, distinct⟩ := List.pairwise_cons.mp distinct
    obtain ⟨here, others⟩ := List.forall_mem_cons.mp one
    cases control : first.isController with
    | false => simpa [List.countP_cons, control] using ih distinct others
    | true =>
      have none : rest.countP isController = 0 := by
        rw [List.countP_eq_zero]
        intro existing member claims
        have same := sameKey_trans (here control) (sameKey_symm (others existing member claims))
        simp [apart existing member] at same
      simp [control, none]

/-- Whoever takes control of a list with every key once is the only controller after that. -/
theorem orderly_takeControl
    (distinct : refs.Pairwise fun first second => first.sameKey second = false) :
    Orderly (ref.takeControl refs) := by
  have kept : (ref.takeControl refs).Pairwise fun first second =>
      first.sameKey second = false := by
    rw [takeControl_eq]
    apply distinct_join
    rw [List.pairwise_map]
    simpa using distinct
  refine ⟨kept, countP_le_one_of_sameKey ref kept ?_⟩
  intro existing member claims
  obtain rfl | ⟨source, _, other, rfl⟩ := mem_takeControl_iff.mp member
  · exact sameKey_refl ref
  · simp [isController_yielded ref other] at claims

/-- A mere owner that joins a list brings no controller with it. -/
theorem countP_join_le (mere : ref.isController = false) :
    (ref.join refs).countP isController ≤ refs.countP isController := by
  cases present : refs.any (·.sameKey ref) with
  | true =>
    rw [join_of_any present, List.countP_map]
    refine List.countP_mono_left ?_
    intro existing _ claims
    by_cases same : existing.sameKey ref = true <;> simp_all
  | false => simp [join_of_not_any present, mere]

/-- An orderly list stays orderly when a parent is merged into it. -/
theorem Orderly.merge (orderly : Orderly refs) (ref : OwnerReference) (control : Bool) :
    Orderly (ref.merge control refs) := by
  cases control with
  | true => exact orderly_takeControl orderly.distinct
  | false =>
    exact ⟨distinct_join orderly.distinct,
      Nat.le_trans (countP_join_le (isController_asOwner ref)) orderly.controller⟩

/-- What a ruler has made of a list of owners: no one else claims control, and it is among them
itself and must not go before the object. Whether it still `holds` control is another matter. -/
structure Ruled (ruler : OwnerReference) (holds : Prop) (refs : List OwnerReference) : Prop where
  sole : ∀ existing ∈ refs, existing.isController = true → existing.sameKey ruler = true
  present : ∃ existing ∈ refs, existing.sameKey ruler = true
  blocking : ∀ existing ∈ refs, existing.sameKey ruler = true →
    existing.blockOwnerDeletion = .bool true
  flagged : ∀ existing ∈ refs, existing.sameKey ruler = true →
    (existing.isController = true ↔ holds)

/-- Whoever takes control rules and holds it. -/
theorem ruled_takeControl (ref : OwnerReference) (refs : List OwnerReference) :
    Ruled ref True (ref.takeControl refs) where
  sole existing member claims := by
    obtain rfl | ⟨source, _, other, rfl⟩ := mem_takeControl_iff.mp member
    · exact sameKey_refl ref
    · simp [isController_yielded ref other] at claims
  present := exists_mem_merge ref true refs
  blocking existing member same := by
    obtain rfl | ⟨source, _, other, rfl⟩ := mem_takeControl_iff.mp member
    · rfl
    · simp [other] at same
  flagged existing member same := by
    obtain rfl | ⟨source, _, other, rfl⟩ := mem_takeControl_iff.mp member
    · simp
    · simp [other] at same

/-- A mere owner that joins leaves the ruler in place, and gives up control if it is the ruler. -/
theorem Ruled.join {ruler : OwnerReference} {holds : Prop} (ruled : Ruled ruler holds refs)
    (ref : OwnerReference) :
    Ruled ruler (holds ∧ ref.sameKey ruler = false) (ref.asOwner.join refs) where
  sole existing member claims := by
    obtain rfl | ⟨there, _⟩ := mem_join_iff.mp member
    · simp at claims
    · exact ruled.sole existing there claims
  present := by
    obtain ⟨existing, there, same⟩ := ruled.present
    obtain ⟨merged, member, same'⟩ := exists_mem_merge_of_mem ref false there
    exact ⟨merged, member, sameKey_trans same' same⟩
  blocking existing member same := by
    obtain rfl | ⟨there, _⟩ := mem_join_iff.mp member
    · rfl
    · exact ruled.blocking existing there same
  flagged existing member same := by
    obtain rfl | ⟨there, other⟩ := mem_join_iff.mp member
    · rw [asOwner_sameKey] at same
      simp [same]
    · have apart : ref.sameKey ruler = false := by
        by_contra isRuler
        have := sameKey_trans same (sameKey_symm (by simpa using isRuler))
        simp [this] at other
      rw [ruled.flagged existing there same, and_iff_left apart]

/-- What a mere owner makes of a list of owners: the others stay as they are and in order, and it
is among them, without control and not to go before the object. -/
structure Joined (parent : OwnerReference) (before after : List OwnerReference) : Prop where
  others : after.filter (fun ref => !ref.sameKey parent) =
    before.filter fun ref => !ref.sameKey parent
  own : ∀ ref ∈ after, ref.sameKey parent = true →
    ref.controller = .bool false ∧ ref.blockOwnerDeletion = .bool true
  present : ∃ ref ∈ after, ref.sameKey parent = true

/-- To join a list leaves the references of other keys and their order. -/
theorem filter_join (ref : OwnerReference) (refs : List OwnerReference) :
    (ref.join refs).filter (fun existing => !existing.sameKey ref) =
      refs.filter fun existing => !existing.sameKey ref := by
  have replaced : (refs.map fun existing => if existing.sameKey ref then ref else existing).filter
      (fun existing => !existing.sameKey ref) = refs.filter fun existing => !existing.sameKey ref := by
    induction refs with
    | nil => rfl
    | cons first rest ih => by_cases same : first.sameKey ref = true <;> simp [same, ih]
  cases present : refs.any (·.sameKey ref) with
  | true => rw [join_of_any present, replaced]
  | false => simp [join_of_not_any present, List.filter_append]

theorem joined_asOwner (parent : OwnerReference) (refs : List OwnerReference) :
    Joined parent refs (parent.asOwner.join refs) where
  others := filter_join parent.asOwner refs
  own ref member same := by
    obtain rfl | ⟨_, other⟩ := mem_join_iff.mp member
    · exact ⟨rfl, rfl⟩
    · simp [same] at other
  present := exists_mem_merge parent false refs

theorem Joined.trans {parent : OwnerReference} {before middle after : List OwnerReference}
    (first : Joined parent before middle) (second : Joined parent middle after) :
    Joined parent before after :=
  ⟨second.others.trans first.others, second.own, second.present⟩

end ManifestOwnership.OwnerReference
