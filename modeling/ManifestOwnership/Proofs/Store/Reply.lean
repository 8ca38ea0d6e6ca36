import ManifestOwnership.Proofs.Store.Reachable

/-! # What a store replies

A read finds the object under the identity that is asked for, or says that there is none, and an
identity that cannot be made is not taken for a missing object. The reply to a write is the object
as it is stored. So whatever object a store hands over is one that it holds.
-/

namespace ManifestOwnership.Store

namespace Request

def key : Request → Except Fault ObjectKey
  | .get apiVersion kind name scope => ObjectKey.of scope kind apiVersion name
  | .create definition => Manifest.key definition
  | .update definition => Manifest.key definition

/-- Whether a request creates an object under an identity. -/
def creates (key : ObjectKey) : Request → Bool
  | .create definition =>
    match Manifest.key definition with
    | .ok own => own.same key
    | .error _ => false
  | _ => false

theorem isWrite_eq_false_iff {r : Request} :
    r.isWrite = false ↔ ∃ apiVersion kind name scope, r = .get apiVersion kind name scope := by
  cases r <;> simp [isWrite]

/-- A reply that a store can give: a fault, or the object that it holds under the identity. -/
def Plausible (r : Request) (reply : Except Fault Value) : Prop :=
  ∀ object, reply = .ok object → ∃ key versions, r.key = .ok key ∧
    Memory.Held versions key object

end Request

namespace Memory

variable {issuer : Issuer} {memory : Memory} {key : ObjectKey} {object : Value} {r : Request}
  {apiVersion kind name scope : Value}

/-- A read depends on nothing but the object under the identity. -/
theorem get_congr {memory' : Memory}
    (same : ∀ key, ObjectKey.of scope kind apiVersion name = .ok key →
      memory.find? key = memory'.find? key) :
    memory.get apiVersion kind name scope = memory'.get apiVersion kind name scope := by
  rw [get, get]
  cases atKey : ObjectKey.of scope kind apiVersion name with
  | error fault => rfl
  | ok key => rw [ok_bind, ok_bind, same key atKey]

private theorem isObjectMissing_of_asKey {value : Value} {fault : Fault}
    (failure : value.asKey = .error fault) : fault.isObjectMissing = false := by
  unfold Value.asKey at failure
  split_ifs at failure
  obtain rfl := Except.error.inj failure
  rfl

/-- A value that can be no part of an identity is not taken for a missing object. -/
theorem reply_get_of_error {fault : Fault}
    (noKey : ObjectKey.of scope kind apiVersion name = .error fault) :
    (memory.answer issuer (.get apiVersion kind name scope)).reply = .error fault ∧
      fault.isObjectMissing = false := by
  constructor
  · change memory.get apiVersion kind name scope = _
    rw [get, noKey]
    rfl
  · simp only [ObjectKey.of, bind_eq_error_iff] at noKey
    rcases noKey with
      failure | ⟨_, _, failure | ⟨_, _, failure | ⟨_, _, failure | ⟨_, _, failure⟩⟩⟩⟩
    · exact isObjectMissing_of_asKey failure
    · exact isObjectMissing_of_asKey failure
    · exact isObjectMissing_of_asKey failure
    · exact isObjectMissing_of_asKey failure
    · contradiction

theorem reply_get_of_some (atKey : ObjectKey.of scope kind apiVersion name = .ok key)
    (present : memory.find? key = some object) :
    (memory.answer issuer (.get apiVersion kind name scope)).reply = .ok object := by
  change memory.get apiVersion kind name scope = _
  rw [get, atKey, ok_bind, present]
  rfl

theorem reply_get_of_none (issuer : Issuer)
    (atKey : ObjectKey.of scope kind apiVersion name = .ok key)
    (absent : memory.find? key = none) : ∃ fault,
      (memory.answer issuer (.get apiVersion kind name scope)).reply = .error fault ∧
        fault.isObjectMissing = true := by
  change ∃ fault, memory.get apiVersion kind name scope = _ ∧ _
  rw [get, atKey, ok_bind, absent]
  exact ⟨_, rfl, rfl⟩

private theorem find?_of_reply_get
    (reply : (memory.answer issuer (.get apiVersion kind name scope)).reply = .ok object) :
    ∃ key, ObjectKey.of scope kind apiVersion name = .ok key ∧ memory.find? key = some object := by
  cases atKey : ObjectKey.of scope kind apiVersion name with
  | error fault => simp [(reply_get_of_error atKey).1] at reply
  | ok key =>
    refine ⟨key, rfl, ?_⟩
    cases found : memory.find? key with
    | none =>
      obtain ⟨fault, missing, _⟩ := reply_get_of_none issuer atKey found
      simp [missing] at reply
    | some current =>
      rw [reply_get_of_some atKey found] at reply
      exact congrArg some (Except.ok.inj reply)

/-- A reply is the object that the store holds afterwards under the identity asked for. -/
theorem find?_of_reply
    (reply : (memory.answer issuer r).reply = .ok object) :
    ∃ key, r.key = .ok key ∧ (memory.answer issuer r).state.find? key = some object := by
  obtain ⟨idle, unchanged⟩ | ⟨definition, key, writes, _, atKey, replied, state⟩ :=
    answer_cases issuer memory r
  · rw [unchanged]
    obtain reads | ⟨fault, failed⟩ := idle
    · obtain ⟨apiVersion, kind, name, scope, rfl⟩ := Request.isWrite_eq_false_iff.mp reads
      exact find?_of_reply_get reply
    · simp [failed] at reply
  · obtain rfl := Except.ok.inj (replied.symm.trans reply)
    refine ⟨key, ?_, ?_⟩
    · obtain ⟨rfl, _⟩ | ⟨rfl, _⟩ := writes <;> exact atKey
    · rw [state, find?_written, if_pos (ObjectKey.same_refl key)]

theorem plausible_reply (issuer : Issuer) (sound : memory.Sound) (r : Request) :
    r.Plausible (memory.answer issuer r).reply := by
  intro object reply
  obtain ⟨key, atKey, found⟩ := find?_of_reply reply
  exact ⟨key, _, atKey, (sound.answer r).held key object found⟩

end Memory

end ManifestOwnership.Store
