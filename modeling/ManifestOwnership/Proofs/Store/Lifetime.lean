import ManifestOwnership.Proofs.Store.Course

/-! # Managed metadata over the life of a store

A store numbers the objects that it stores, one after another, from the first object that it is set
up with to the last one that is written. What stands under an identity keeps its uid and its
creation time from then on, whatever the definitions say that replace it. The requests of the life
may be those of any number of clients and passes, and any of them may fail.
-/

namespace ManifestOwnership.Store.Memory

open Interaction

variable {issuer : Issuer} {memory first middle after later : Memory} {key : ObjectKey}
  {object stored : Value} {resources objects : List Value}
  {exchanges : List (Request × Except Fault Value)}

/-- The objects that the writes of a course have stored. -/
def storedBy (exchanges : List (Request × Except Fault Value)) : List Value :=
  exchanges.filterMap fun (r, reply) => if r.isWrite then reply.toOption else none

/-- Some versions in order, after as many as have been given out. -/
def versionsAfter (given count : Nat) : List Value :=
  (List.range' (given + 1) count).map fun n => .text (toString n)

theorem versionsAfter_succ (given count : Nat) : versionsAfter given (count + 1) =
    .text (toString (given + 1)) :: versionsAfter (given + 1) count := by
  rw [versionsAfter, List.range'_succ, List.map_cons, versionsAfter]

theorem versionsAfter_append (given count more : Nat) :
    versionsAfter given count ++ versionsAfter (given + count) more =
      versionsAfter given (count + more) := by
  rw [versionsAfter, versionsAfter, versionsAfter, ← List.map_append,
    show given + count + 1 = given + 1 + 1 * count by omega, List.range'_append]

/-- The next object that is stored gets the next version. -/
theorem versionOf_stamped (writable : Manifest.Writable object) (before : Fields) :
    versionOf (memory.stamped issuer before object) = .text (toString (memory.versions + 1)) := by
  rw [stamped, versionOf_eq (writable.formed_withMetadata _), writable.metadata_withMetadata,
    Fields.get, get?_stamp_resourceVersion, Option.getD_some]

/-- The resources that a store is set up with get the next versions in order. -/
theorem Stocks.versions (stocks : Stocks issuer memory resources objects after) :
    objects.map versionOf = versionsAfter memory.versions objects.length ∧
      after.versions = memory.versions + objects.length := by
  induction stocks with
  | nil => exact ⟨rfl, rfl⟩
  | @cons memory middle after resource stored resources objects put rest ih =>
    obtain ⟨writable, key, _, rfl, rfl⟩ := put_eq_ok_iff.mp put
    obtain ⟨later, count⟩ := ih
    rw [versions_written] at later count
    rw [List.map_cons, versionOf_stamped writable, later, List.length_cons, versionsAfter_succ]
    exact ⟨rfl, by omega⟩

/-- The objects that a course stores get the next versions in order. Reads and requests that fail
use up none. -/
theorem versions_of_answers (answers : Answers (answer issuer) memory exchanges after) :
    (storedBy exchanges).map versionOf = versionsAfter memory.versions (storedBy exchanges).length ∧
      after.versions = memory.versions + (storedBy exchanges).length := by
  induction exchanges generalizing memory with
  | nil =>
    obtain rfl := answers
    exact ⟨rfl, rfl⟩
  | cons exchange rest ih =>
    obtain ⟨r, reply⟩ := exchange
    obtain ⟨rfl, answers⟩ := answers
    obtain ⟨later, count⟩ := ih answers
    obtain ⟨idle, unchanged⟩ | ⟨definition, key, writes, writable, _, replied, state⟩ :=
      answer_cases issuer memory r
    · have nothing : storedBy ((r, (memory.answer issuer r).reply) :: rest) = storedBy rest := by
        obtain reads | ⟨fault, failed⟩ := idle
        · simp [storedBy, reads]
        · simp [storedBy, failed, Except.toOption]
      rw [unchanged] at later count
      rw [nothing]
      exact ⟨later, count⟩
    · have isWrite : r.isWrite = true := by
        obtain ⟨rfl, _⟩ | ⟨rfl, _⟩ := writes <;> rfl
      have one : storedBy ((r, (memory.answer issuer r).reply) :: rest) =
          memory.stamped issuer (memory.before key) definition :: storedBy rest := by
        simp [storedBy, replied, isWrite, Except.toOption]
      rw [state, versions_written] at later count
      rw [one, List.map_cons, versionOf_stamped writable, later, List.length_cons,
        versionsAfter_succ]
      exact ⟨rfl, by omega⟩

/-- Objects of different identities have different versions. -/
def VersionsApart (memory : Memory) : Prop :=
  ∀ key other object object', memory.find? key = some object →
    memory.find? other = some object' → versionOf object = versionOf object' →
      key.same other = true

/-- A version that has been given out is not given out again. -/
theorem Held.versionOf_ne (held : Held memory.versions key object)
    (writable : Manifest.Writable stored) (before : Fields) :
    versionOf object ≠ versionOf (memory.stamped issuer before stored) := by
  obtain ⟨n, below, version⟩ := held.versioned
  rw [versionOf_eq held.formed, version, versionOf_stamped writable]
  intro same
  have := versionText_inj same
  omega

theorem VersionsApart.written (apart : memory.VersionsApart) (sound : memory.Sound)
    (writable : Manifest.Writable object) (before : Fields) (key : ObjectKey) :
    (memory.written issuer before key object).VersionsApart := by
  intro one other held held' found found' same
  rw [find?_written] at found found'
  split_ifs at found found' with here there there
  · exact ObjectKey.same_trans (ObjectKey.same_symm here) there
  · obtain rfl := Option.some.inj found
    exact absurd same.symm ((sound.held other held' found').versionOf_ne writable before)
  · obtain rfl := Option.some.inj found'
    exact absurd same ((sound.held one held found).versionOf_ne writable before)
  · exact apart one other held held' found found' same

/-- In every state of a store its objects have different versions. -/
theorem versionsApart {strict : Bool} (start : ofResources issuer strict resources = .ok first)
    (answers : Answers (answer issuer) first exchanges later) :
    later.Sound ∧ later.VersionsApart := by
  refine answers.keeps (fun state => state.Sound ∧ state.VersionsApart) ?_ ?_
  · rintro state r ⟨sound, apart⟩
    refine ⟨sound.answer r, ?_⟩
    obtain ⟨_, unchanged⟩ | ⟨definition, key, _, writable, _, _, written⟩ :=
      answer_cases issuer state r
    · rwa [unchanged]
    · rw [written]
      exact apart.written sound writable _ key
  · refine ofResources_keeps (fun state => state.Sound ∧ state.VersionsApart) ?_ start
      ⟨sound_empty strict, fun _ _ _ _ found => nomatch found⟩
    rintro state resource stored after ⟨sound, apart⟩ put
    refine ⟨sound.put put, ?_⟩
    obtain ⟨writable, key, _, _, rfl⟩ := put_eq_ok_iff.mp put
    exact apart.written sound writable _ key

/-- The objects of a store are told apart by their versions. -/
theorem VersionsApart.pairwise (apart : memory.VersionsApart) (sound : memory.Sound) :
    memory.objects.Pairwise fun one other => versionOf one ≠ versionOf other := by
  refine List.pairwise_map.mpr (sound.apart.entries.imp_of_mem ?_)
  intro one other member member' differs same
  rw [apart _ _ _ _ (sound.apart.find?_of_mem member) (sound.apart.find?_of_mem member') same]
    at differs
  contradiction

/-- Over the life of a store, from the resources that it is set up with through any requests,

* every object that it holds has a uid, a creation time and a decimal version,
* no two objects have the same version,
* the objects that are stored one after another have the versions 1, 2, 3, …, where what a request
  replies is the object that the store then holds under the identity, and
* what stands under an identity at any time keeps its uid and its creation time to the end. -/
theorem manages_metadata {strict : Bool} {early late : List (Request × Except Fault Value)}
    (start : ofResources issuer strict resources = .ok first)
    (earlier : Answers (answer issuer) first early middle)
    (since : Answers (answer issuer) middle late later) :
    (∀ object ∈ later.objects, Manifest.Formed object ∧
        (Fields.get object.metadata "uid").truthy = true ∧
        (Fields.get object.metadata "creationTimestamp").truthy = true ∧
        ∃ n, 0 < n ∧ versionOf object = .text (toString n)) ∧
      later.objects.Pairwise (fun one other => versionOf one ≠ versionOf other) ∧
      (∃ stocked, Stocks issuer (empty strict) resources stocked first ∧
        (stocked ++ storedBy (early ++ late)).map versionOf =
          versionsAfter 0 (stocked ++ storedBy (early ++ late)).length) ∧
      (∀ front r object back, early ++ late = front ++ (r, .ok object) :: back →
        ∃ state key, Answers (answer issuer) first (front ++ [(r, .ok object)]) state ∧
          r.key = .ok key ∧ state.find? key = some object) ∧
      ∀ key object, middle.find? key = some object →
        ∃ object', later.find? key = some object' ∧ Replaces object' object := by
  have whole : Answers (answer issuer) first (early ++ late) later :=
    answers_append_iff.mpr ⟨middle, earlier, since⟩
  obtain ⟨sound, apart⟩ := versionsApart start whole
  refine ⟨fun object member => ?_, apart.pairwise sound, ?_, fun front r object back split => ?_,
    fun key object found => ?_⟩
  · obtain ⟨key, found⟩ := sound.mem_objects_iff.mp member
    have held := sound.held key object found
    obtain ⟨n, _, version⟩ := held.versioned
    exact ⟨held.formed, held.identified, held.timed, n + 1, Nat.succ_pos n,
      (versionOf_eq held.formed).trans version⟩
  · obtain ⟨stocked, stocks⟩ := exists_stocks start
    obtain ⟨front, count⟩ := stocks.versions
    obtain ⟨back, _⟩ := versions_of_answers whole
    refine ⟨stocked, stocks, ?_⟩
    rw [List.map_append, front, back, count, versionsAfter_append, List.length_append]
    rfl
  · exact find?_of_exchange (split ▸ whole)
  · exact replaces_of_answers ((sound_ofResources start).of_answers earlier) since found

def claiming (name : String) (uid : Value) : Value :=
  .object [("apiVersion", .text "v1"), ("kind", .text "ConfigMap"),
    ("metadata", .object [("name", .text name), ("uid", uid), ("creationTimestamp", .bool true),
      ("resourceVersion", .list [])])]

/-- A store is set up with an object that declares a number for its uid. Another object is created,
a second one of the first identity is refused, and the first one is updated with another uid. The
writes are numbered on from the first object, the one that is created is held as it is replied, and
the first one still has its number for a uid. -/
theorem manages_metadata_claiming : ∃ first between later object object' created refused updated,
    ofResources numerals false [claiming "a" (.int 7)] = .ok first ∧
    Answers (answer numerals) first [(.create (claiming "b" .null), .ok created),
      (.create (claiming "a" .null), .error refused),
      (.update (claiming "a" (.text "other")), .ok updated)] later ∧
    (∃ stocked, Stocks numerals (empty false) [claiming "a" (.int 7)] [stocked] first ∧
      [stocked, created, updated].map versionOf = [.text "1", .text "2", .text "3"]) ∧
    Answers (answer numerals) first [(.create (claiming "b" .null), .ok created)] between ∧
    between.find? ⟨.null, .text "ConfigMap", .text "v1", .text "b"⟩ = some created ∧
    first.find? ⟨.null, .text "ConfigMap", .text "v1", .text "a"⟩ = some object ∧
    Fields.get? object.metadata "uid" = some (.int 7) ∧
    later.find? ⟨.null, .text "ConfigMap", .text "v1", .text "a"⟩ = some object' ∧
    Fields.get? object'.metadata "uid" = some (.int 7) := by
  obtain ⟨first, later, created, refused, updated, object, start, answers, found, uid⟩ :
      ∃ first later created refused updated object,
        ofResources numerals false [claiming "a" (.int 7)] = .ok first ∧
        Answers (answer numerals) first [(.create (claiming "b" .null), .ok created),
          (.create (claiming "a" .null), .error refused),
          (.update (claiming "a" (.text "other")), .ok updated)] later ∧
        first.find? ⟨.null, .text "ConfigMap", .text "v1", .text "a"⟩ = some object ∧
        Fields.get? object.metadata "uid" = some (.int 7) :=
    ⟨_, _, _, _, _, _, rfl, ⟨rfl, rfl, rfl, rfl⟩, rfl, rfl⟩
  have nothing : Answers (answer numerals) first [] first := rfl
  obtain ⟨_, _, ⟨_, stocks, versions⟩, holds, keeps⟩ := manages_metadata start nothing answers
  obtain ⟨between, key, answered, atKey, held⟩ := holds [] _ _ _ rfl
  obtain rfl := Except.ok.inj (atKey.symm.trans rfl)
  obtain ⟨object', found', replaces⟩ := keeps _ object found
  cases stocks with
  | cons put rest =>
    cases rest
    exact ⟨first, between, later, object, object', created, refused, updated, start, answers,
      ⟨_, .cons put .nil, versions⟩, answered, held, found, uid, found', replaces.uid.trans uid⟩

end ManifestOwnership.Store.Memory
