import ManifestOwnership.Proofs.Play
import ManifestOwnership.Proofs.Store.Reply

/-! # What a course leaves in a store

The exchanges of an activity tell what it did to the store that it was run against. An identity that
no successful write was about finds what it found before, and one that was written finds an object
of a version that no object had before.
-/

namespace ManifestOwnership.Store.Memory

open Interaction

variable {issuer : Issuer} {memory after : Memory} {key : ObjectKey} {object : Value} {r : Request}
  {reply : Except Fault Value} {exchanges later : List (Request × Except Fault Value)}

/-- Some successful write was about an identity. -/
def Written (exchanges : List (Request × Except Fault Value)) (key : ObjectKey) : Prop :=
  ∃ exchange ∈ exchanges, exchange.1.isWrite = true ∧ (∃ object, exchange.2 = .ok object) ∧
    ∃ own, exchange.1.key = .ok own ∧ own.same key = true

/-- An object has a version that the store had not given out yet. -/
def NewTo (memory : Memory) (object : Value) : Prop :=
  ∃ n, memory.versions ≤ n ∧
    Fields.get object.metadata "resourceVersion" = .text (toString (n + 1))

/-- A new object has another version than any that the store holds. -/
theorem NewTo.version_ne {stored : Value} (new : memory.NewTo stored)
    (held : Held memory.versions key object) :
    Fields.get stored.metadata "resourceVersion" ≠
      Fields.get object.metadata "resourceVersion" := by
  obtain ⟨n, above, version⟩ := new
  obtain ⟨m, below, version'⟩ := held.versioned
  rw [version, version']
  intro same
  have same := versionText_inj same
  omega

/-- What a store holds is not new to it. -/
theorem NewTo.ne_of_find? {stored : Value} (new : memory.NewTo stored) (sound : memory.Sound)
    (found : memory.find? key = some object) : stored ≠ object := by
  rintro rfl
  exact new.version_ne (sound.held key stored found) rfl

@[simp] theorem not_written_nil : ¬ Written [] key := by
  simp [Written]

theorem written_cons_iff : Written ((r, reply) :: later) key ↔
    (r.isWrite = true ∧ (∃ object, reply = .ok object) ∧
        ∃ own, r.key = .ok own ∧ own.same key = true) ∨ Written later key := by
  simp [Written]

/-- An answer leaves an identity, or it is a successful write and leaves a new object there. -/
theorem find?_answer (issuer : Issuer) (memory : Memory) (r : Request) (key : ObjectKey) :
    (¬ Written [(r, (memory.answer issuer r).reply)] key ∧
        (memory.answer issuer r).state.find? key = memory.find? key) ∨
      Written [(r, (memory.answer issuer r).reply)] key ∧
        ∃ object, (memory.answer issuer r).state.find? key = some object ∧
          memory.NewTo object := by
  obtain ⟨idle, unchanged⟩ | ⟨definition, own, writes, writable, atOwn, replied, state⟩ :=
    answer_cases issuer memory r
  · rw [unchanged]
    refine .inl ⟨?_, rfl⟩
    rintro ⟨exchange, member, isWrite, ⟨object, succeeded⟩, _⟩
    obtain rfl := List.mem_singleton.mp member
    obtain reads | ⟨fault, failed⟩ := idle
    · simp [reads] at isWrite
    · simp [failed] at succeeded
  · have about : r.isWrite = true ∧ r.key = .ok own := by
      obtain ⟨rfl, _⟩ | ⟨rfl, _⟩ := writes <;> exact ⟨rfl, atOwn⟩
    rw [state, replied, find?_written]
    split_ifs with same
    · refine .inr ⟨⟨_, List.mem_singleton_self _, about.1, ⟨_, rfl⟩, own, about.2, same⟩, _, rfl,
        memory.versions, Nat.le_refl _, ?_⟩
      rw [stamped, writable.metadata_withMetadata, Fields.get, get?_stamp_resourceVersion,
        Option.getD_some]
    · refine .inl ⟨?_, rfl⟩
      rintro ⟨exchange, member, _, _, own', atOwn', same'⟩
      obtain rfl := List.mem_singleton.mp member
      obtain rfl := Except.ok.inj (about.2.symm.trans atOwn')
      exact same same'

theorem versions_le_answer (issuer : Issuer) (memory : Memory) (r : Request) :
    memory.versions ≤ (memory.answer issuer r).state.versions := by
  obtain ⟨_, unchanged⟩ | ⟨definition, key, _, _, _, _, state⟩ := answer_cases issuer memory r
  · exact Nat.le_of_eq (by rw [unchanged])
  · rw [state, versions_written]
    exact Nat.le_succ _

theorem strict_answer (issuer : Issuer) (memory : Memory) (r : Request) :
    (memory.answer issuer r).state.strict = memory.strict := by
  obtain ⟨_, unchanged⟩ | ⟨definition, key, _, _, _, _, state⟩ := answer_cases issuer memory r
  · rw [unchanged]
  · rw [state, strict_written]

theorem strict_of_answers (answers : Answers (answer issuer) memory exchanges after) :
    after.strict = memory.strict :=
  answers.keeps (·.strict = memory.strict)
    (fun state r kept => (strict_answer issuer state r).trans kept) rfl

theorem Sound.of_answers (sound : memory.Sound)
    (answers : Answers (Memory.answer issuer) memory exchanges after) : after.Sound :=
  answers.keeps Sound (fun _ r sound => sound.answer r) sound

/-- The reply to a request of a course that succeeds is the object that the store then holds under
the identity. -/
theorem find?_of_exchange {front : List (Request × Except Fault Value)}
    (answers : Answers (answer issuer) memory (front ++ (r, .ok object) :: later) after) :
    ∃ state key, Answers (answer issuer) memory (front ++ [(r, .ok object)]) state ∧
      r.key = .ok key ∧ state.find? key = some object := by
  obtain ⟨middle, early, replied, _⟩ := answers_append_iff.mp answers
  obtain ⟨key, atKey, found⟩ := find?_of_reply replied
  exact ⟨_, key, answers_append_iff.mpr ⟨middle, early, replied, rfl⟩, atKey, found⟩

/-- What a course leaves under an identity, depending on whether it has written it. -/
theorem find?_of_answers (sound : memory.Sound)
    (answers : Answers (answer issuer) memory exchanges after) (key : ObjectKey) :
    (¬ Written exchanges key ∧ after.find? key = memory.find? key) ∨
      Written exchanges key ∧ ∃ object, after.find? key = some object ∧ memory.NewTo object := by
  induction exchanges generalizing memory with
  | nil =>
    obtain rfl := answers
    exact .inl ⟨not_written_nil, rfl⟩
  | cons exchange later ih =>
    obtain ⟨r, reply⟩ := exchange
    obtain ⟨rfl, answers⟩ := answers
    have here := find?_answer issuer memory r key
    obtain ⟨unwritten, same⟩ | ⟨written, object, found, n, above, version⟩ :=
      ih (sound.answer r) answers
    · rw [same]
      simpa [written_cons_iff, unwritten] using here
    · have above := Nat.le_trans (versions_le_answer issuer memory r) above
      exact .inr ⟨written_cons_iff.mpr (.inr written), object, found, n, above, version⟩

/-- An identity has the object that it had exactly if it has not been written: each write leaves
another version. -/
theorem find?_eq_iff_not_written (sound : memory.Sound)
    (answers : Answers (answer issuer) memory exchanges after) :
    after.find? key = memory.find? key ↔ ¬ Written exchanges key := by
  obtain ⟨unwritten, same⟩ | ⟨written, object, found, new⟩ := find?_of_answers sound answers key
  · exact iff_of_true same unwritten
  · refine iff_of_false (fun same => ?_) (not_not_intro written)
    rw [found] at same
    exact new.ne_of_find? sound same.symm rfl

/-- An object stands where another one stood: it has the uid and the creation time of that one. -/
structure Replaces (object' object : Value) : Prop where
  uid : Fields.get? object'.metadata "uid" = Fields.get? object.metadata "uid"
  creationTimestamp : Fields.get? object'.metadata "creationTimestamp" =
    Fields.get? object.metadata "creationTimestamp"

theorem Replaces.refl (object : Value) : Replaces object object :=
  ⟨rfl, rfl⟩

theorem Replaces.trans {first second third : Value} (late : Replaces third second)
    (early : Replaces second first) : Replaces third first :=
  ⟨late.uid.trans early.uid, late.creationTimestamp.trans early.creationTimestamp⟩

/-- An answer leaves an object in place or replaces it. -/
theorem replaces_answer (issuer : Issuer) (sound : memory.Sound) (r : Request)
    (found : memory.find? key = some object) :
    ∃ object', (memory.answer issuer r).state.find? key = some object' ∧
      Replaces object' object := by
  have held := sound.held key object found
  obtain ⟨_, unchanged⟩ | ⟨definition, own, _, writable, _, _, state⟩ :=
    answer_cases issuer memory r
  · rw [unchanged]
    exact ⟨object, found, .refl object⟩
  · rw [state, find?_written]
    split_ifs with same
    · have before : memory.before own = object.metadata :=
        sound.before_of_some ((Content.find?_congr same).trans found)
      refine ⟨_, rfl, ?_, ?_⟩
      · rw [stamped, writable.metadata_withMetadata, get?_stamp_uid, before]
        exact (managed_of_truthy held.identified _ _).1
      · rw [stamped, writable.metadata_withMetadata, get?_stamp_creationTimestamp, before]
        exact (managed_of_truthy held.timed _ _).1
    · exact ⟨object, found, .refl object⟩

/-- However often it is written, an identity keeps its uid and its creation time. -/
theorem replaces_of_answers (sound : memory.Sound)
    (answers : Answers (answer issuer) memory exchanges after)
    (found : memory.find? key = some object) :
    ∃ object', after.find? key = some object' ∧ Replaces object' object := by
  refine (answers.keeps (fun state => state.Sound ∧ ∃ object', state.find? key = some object' ∧
    Replaces object' object) ?_ ⟨sound, object, found, .refl object⟩).2
  rintro state r ⟨sound, object', found', replaces⟩
  obtain ⟨object'', found'', replaces'⟩ := replaces_answer issuer sound r found'
  exact ⟨sound.answer r, object'', found'', replaces'.trans replaces⟩

/-- Whether an exchange has created an object under an identity. -/
def creation (key : ObjectKey) (exchange : Request × Except Fault Value) : Bool :=
  exchange.1.creates key && exchange.2.isOk

/-- What is there stays there. -/
theorem isSome_of_answers (sound : memory.Sound)
    (answers : Answers (answer issuer) memory exchanges after)
    (present : (memory.find? key).isSome = true) : (after.find? key).isSome = true := by
  obtain ⟨_, same⟩ | ⟨_, object, found, _⟩ := find?_of_answers sound answers key
  · rwa [same]
  · rw [found]
    rfl

/-- An answer creates an object under an identity exactly if there was none and now is one. -/
theorem creation_answer (issuer : Issuer) (memory : Memory) (r : Request) (key : ObjectKey) :
    creation key (r, (memory.answer issuer r).reply) =
      ((memory.find? key).isNone && ((memory.answer issuer r).state.find? key).isSome) := by
  obtain ⟨idle, unchanged⟩ | ⟨definition, own, writes, _, atOwn, replied, state⟩ :=
    answer_cases issuer memory r
  · have creates : creation key (r, (memory.answer issuer r).reply) = false := by
      obtain reads | ⟨fault, failed⟩ := idle
      · obtain ⟨_, _, _, _, rfl⟩ := Request.isWrite_eq_false_iff.mp reads
        rfl
      · simp [creation, failed, Except.isOk, Except.toBool]
    rw [creates, unchanged]
    cases memory.find? key <;> rfl
  · have here (same : own.same key = true) : memory.find? own = memory.find? key :=
      Content.find?_congr same
    rw [state, replied, find?_written]
    obtain ⟨rfl, absent⟩ | ⟨rfl, current, present⟩ := writes
    · cases same : own.same key with
      | true =>
        rw [here same] at absent
        simp [creation, Request.creates, atOwn, same, absent, Except.isOk, Except.toBool]
      | false => cases memory.find? key <;> simp [creation, Request.creates, atOwn, same]
    · cases same : own.same key with
      | true =>
        rw [here same] at present
        simp [creation, Request.creates, present]
      | false => cases memory.find? key <;> simp [creation, Request.creates]

/-- However long a course is, an identity is created under it once at most, and exactly if there was
no object before and is one afterwards. -/
theorem countP_creation_of_answers (sound : memory.Sound)
    (answers : Answers (answer issuer) memory exchanges after) (key : ObjectKey) :
    exchanges.countP (creation key) =
      if (memory.find? key).isNone && (after.find? key).isSome then 1 else 0 := by
  induction exchanges generalizing memory with
  | nil =>
    obtain rfl := answers
    cases memory.find? key <;> rfl
  | cons exchange later ih =>
    obtain ⟨r, reply⟩ := exchange
    obtain ⟨rfl, answers⟩ := answers
    have answered : Answers (answer issuer) memory [(r, (memory.answer issuer r).reply)]
        (memory.answer issuer r).state := ⟨rfl, rfl⟩
    have stays (present : (memory.find? key).isSome = true) :
        ((memory.answer issuer r).state.find? key).isSome = true :=
      isSome_of_answers sound answered present
    have kept (present : ((memory.answer issuer r).state.find? key).isSome = true) :
        (after.find? key).isSome = true :=
      isSome_of_answers (sound.answer r) answers present
    rw [List.countP_cons, ih (sound.answer r) answers, creation_answer issuer memory]
    -- It is created at the first request, later, or not at all.
    cases start : memory.find? key with
    | some object =>
      obtain ⟨middle, present⟩ := Option.isSome_iff_exists.mp (stays (by rw [start]; rfl))
      simp [present]
    | none =>
      cases middle : (memory.answer issuer r).state.find? key with
      | some object => simp [kept (by rw [middle]; rfl)]
      | none => simp

end ManifestOwnership.Store.Memory
