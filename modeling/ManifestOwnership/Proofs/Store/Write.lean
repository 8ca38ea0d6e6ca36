import ManifestOwnership.Proofs.Manifest.Metadata
import ManifestOwnership.Proofs.Store.Content

/-! # What a store makes of a write

A store keeps an object as it is given, up to the three fields of the metadata that it manages.
`Memory.put_eq_ok_iff` says which objects can be stored and what the store is afterwards.
-/

namespace ManifestOwnership

namespace Manifest

variable {definition : Value} {fields : Fields}

/-- The identity of a manifest, read off its view. -/
def key (definition : Value) : Except Fault Store.ObjectKey :=
  Store.ObjectKey.of (Fields.get definition.metadata "namespace")
    ((definition.get? "kind").getD .null) ((definition.get? "apiVersion").getD .null)
    (Fields.get definition.metadata "name")

def hasKey (key : Store.ObjectKey) (definition : Value) : Bool :=
  match Manifest.key definition with
  | .ok own => own.same key
  | .error _ => false

theorem hasKey_eq {own : Store.ObjectKey} (atOwn : Manifest.key definition = .ok own)
    (key : Store.ObjectKey) : hasKey key definition = own.same key := by
  rw [hasKey, atOwn]

theorem Writable.eq_object (writable : Writable definition) :
    ∃ content, definition = .object content ∧
      (Fields.get? content "metadata").getD (.object []) = .object definition.metadata := by
  obtain ⟨content, rfl, absent | ⟨fields, found⟩⟩ := writable
  · exact ⟨content, rfl, by simp [Value.metadata, absent]⟩
  · exact ⟨content, rfl, by simp [Value.metadata, found]⟩

theorem Writable.fieldOrEmpty_metadata (writable : Writable definition) :
    definition.fieldOrEmpty "metadata" = .ok (.object definition.metadata) := by
  obtain ⟨content, rfl, absent | ⟨fields, found⟩⟩ := writable
  · simp [Value.metadata, absent, Fields.get, Value.orElse, Value.truthy]
  · simp [Value.metadata, found, Fields.get]

theorem Writable.ofManifest_eq (writable : Writable definition) :
    Store.ObjectKey.ofManifest definition = key definition := by
  rw [Store.ObjectKey.ofManifest, writable.fieldOrEmpty_metadata]
  obtain ⟨content, rfl, _⟩ := writable
  rfl

/-- Metadata of the same name and namespace leaves the identity. -/
theorem Writable.key_withMetadata (writable : Writable definition)
    (sameName : Fields.get fields "name" = Fields.get definition.metadata "name")
    (sameScope : Fields.get fields "namespace" = Fields.get definition.metadata "namespace") :
    key (definition.withMetadata fields) = key definition := by
  rw [key, key, writable.metadata_withMetadata, sameName, sameScope,
    get?_withMetadata_of_ne _ _ (by decide), get?_withMetadata_of_ne _ _ (by decide)]

/-- Manifests that agree on name and namespace have one identity. -/
theorem Agree.key_eq {aside : List String} {first second : Value} (agree : Agree aside first second)
    (keptName : "name" ∉ aside) (keptScope : "namespace" ∉ aside) : key first = key second := by
  rw [key, key, agree.get keptName, agree.get keptScope, agree.content _ (by decide),
    agree.content _ (by decide)]

end Manifest

namespace Store.Memory

variable {issuer : Issuer} {memory after : Memory} {previous : Option Value} {object stored : Value}

/-- A managed field after a write: as it was before, or else as it is given, or else new. -/
def managed (name : String) (before own : Fields) (new : String) : Value :=
  (Fields.get before name).orElse ((Fields.get own name).orElse (.text new))

/-- Whether a managed field is neither there before nor given. -/
def isNew (name : String) (before own : Fields) : Bool :=
  !(Fields.get before name).truthy && !(Fields.get own name).truthy

/-- Metadata with the fields that the store manages. -/
def stamp (issuer : Issuer) (memory : Memory) (before own : Fields) : Fields :=
  let timed := Fields.set own "creationTimestamp"
    (managed "creationTimestamp" before own (issuer.time (memory.times + 1)))
  let identified := Fields.set timed "uid"
    (managed "uid" before own (issuer.uid (memory.uids + 1)))
  Fields.set identified "resourceVersion" (.text (toString (memory.versions + 1)))

/-- An object as the store keeps it. -/
def stamped (issuer : Issuer) (memory : Memory) (before : Fields) (object : Value) : Value :=
  object.withMetadata (memory.stamp issuer before object.metadata)

def written (issuer : Issuer) (memory : Memory) (before : Fields) (key : ObjectKey)
    (object : Value) : Memory where
  content := memory.content.put key (memory.stamped issuer before object)
  strict := memory.strict
  versions := memory.versions + 1
  uids := memory.uids + if isNew "uid" before object.metadata then 1 else 0
  times := memory.times + if isNew "creationTimestamp" before object.metadata then 1 else 0

/-- A managed field is given out only if it is new. -/
theorem on_manage {next : Work Value} {new : String}
    (issued : next.on memory = (.ok (.text new), after)) (name : String) (before own : Fields) :
    (manage name before (.object own) next).on memory =
      (.ok (managed name before own new), if isNew name before own then after else memory) := by
  have read : (Value.object own).field name = .ok (Fields.get own name) := rfl
  cases early : (Fields.get before name).truthy <;>
    cases given : (Fields.get own name).truthy <;>
    simp [manage, managed, isNew, Value.orElse, Work.on_bind, read, early, given, issued]

theorem on_manage_time (issuer : Issuer) (memory : Memory) (before own : Fields) :
    (manage "creationTimestamp" before (.object own) (nextTime issuer)).on memory =
      (.ok (managed "creationTimestamp" before own (issuer.time (memory.times + 1))),
        { memory with
          times := memory.times + if isNew "creationTimestamp" before own then 1 else 0 }) := by
  rw [on_manage (show (nextTime issuer).on memory = _ from rfl)]
  split <;> rfl

theorem on_manage_uid (issuer : Issuer) (memory : Memory) (before own : Fields) :
    (manage "uid" before (.object own) (nextUid issuer)).on memory =
      (.ok (managed "uid" before own (issuer.uid (memory.uids + 1))),
        { memory with uids := memory.uids + if isNew "uid" before own then 1 else 0 }) := by
  rw [on_manage (show (nextUid issuer).on memory = _ from rfl)]
  split <;> rfl

/-- A managed field depends on that field alone. -/
theorem managed_congr {name : String} {before before' own own' : Fields}
    (sameBefore : Fields.get before name = Fields.get before' name)
    (sameOwn : Fields.get own name = Fields.get own' name) (new : String) :
    managed name before own new = managed name before' own' new := by
  rw [managed, managed, sameBefore, sameOwn]

theorem isNew_congr {name : String} {before before' own own' : Fields}
    (sameBefore : Fields.get before name = Fields.get before' name)
    (sameOwn : Fields.get own name = Fields.get own' name) :
    isNew name before own = isNew name before' own' := by
  rw [isNew, isNew, sameBefore, sameOwn]

def managedNames : List String :=
  ["uid", "creationTimestamp", "resourceVersion"]

/-- The store manages three fields and leaves all others. -/
theorem get?_stamp_of_not_mem (before own : Fields) {name : String} (other : name ∉ managedNames) :
    Fields.get? (memory.stamp issuer before own) name = Fields.get? own name := by
  simp only [managedNames, List.mem_cons, List.not_mem_nil, or_false, not_or] at other
  obtain ⟨uid, time, version⟩ := other
  rw [stamp, Fields.get?_set_of_ne _ _ version, Fields.get?_set_of_ne _ _ uid,
    Fields.get?_set_of_ne _ _ time]

theorem ofManifest_stamped (writable : Manifest.Writable object) (before : Fields) :
    ObjectKey.ofManifest (memory.stamped issuer before object) = ObjectKey.ofManifest object := by
  rw [writable.ofManifest_eq, stamped, (writable.formed_withMetadata _).writable.ofManifest_eq]
  apply writable.key_withMetadata <;> simp [stamp, Fields.get_set_of_ne]

@[simp] theorem on_file (scope kind apiVersion name object : Value) :
    (file scope kind apiVersion name object).on memory =
      ((memory.content.file scope kind apiVersion name object).1,
        { memory with content := (memory.content.file scope kind apiVersion name object).2 }) := rfl

/-- The store after it has given out what a write needs. -/
def counted (memory : Memory) (before own : Fields) : Memory :=
  { memory with
    versions := memory.versions + 1
    uids := memory.uids + if isNew "uid" before own then 1 else 0
    times := memory.times + if isNew "creationTimestamp" before own then 1 else 0 }

theorem on_fill (before own : Fields) : (fill issuer before (.object own)).on memory =
    (.ok (.object (memory.stamp issuer before own)), memory.counted before own) := by
  have other (value : Value) :
      Fields.get (Fields.set own "creationTimestamp" value) "uid" = Fields.get own "uid" :=
    Fields.get_set_of_ne _ _ (by decide)
  simp only [fill, Work.on_bind, Work.on_lift, on_manage_time, on_manage_uid, Value.setField]
  rw [managed_congr rfl (other _), isNew_congr rfl (other _)]
  rfl

/-- Metadata that is no object cannot be filled in, and nothing is given out for it. -/
theorem on_fill_of_not_object (issuer : Issuer) (memory : Memory) (before : Fields)
    {metadata : Value} (unfit : ∀ own, metadata ≠ .object own) :
    ∃ fault, (fill issuer before metadata).on memory = (.error fault, memory) := by
  have unread (name : String) : metadata.field name = .error .lacksOperation := by
    cases metadata <;> first | rfl | exact absurd rfl (unfit _)
  have unset (name : String) (new : Value) : metadata.setField name new = .error .wrongType := by
    cases metadata <;> first | rfl | exact absurd rfl (unfit _)
  cases early : (Fields.get before "creationTimestamp").truthy <;>
    simp [fill, manage, Work.on_bind, early, unread, unset]

private theorem on_put_eq (writable : Manifest.Writable object) :
    (put issuer previous object).on memory =
      (file (Fields.get object.metadata "namespace") ((object.get? "kind").getD .null)
          ((object.get? "apiVersion").getD .null) (Fields.get object.metadata "name")
          (memory.stamped issuer (previousMetadata previous) object) >>= fun _ =>
        pure (memory.stamped issuer (previousMetadata previous) object)).on
      (memory.counted (previousMetadata previous) object.metadata) := by
  obtain ⟨content, rfl, own⟩ := writable.eq_object
  have read (fields : Fields) (name : String) :
      (Value.object fields).field name = .ok (Fields.get fields name) := rfl
  have kept (name : String) (other : name ∉ managedNames) (before own : Fields) :
      Fields.get (memory.stamp issuer before own) name = Fields.get own name := by
    rw [Fields.get, get?_stamp_of_not_mem before own other, Fields.get]
  simp only [put, Work.on_bind, Value.fields, Work.on_lift, own, on_fill, read,
    kept "namespace" (by decide), kept "name" (by decide),
    Fields.get_set_of_ne content _ (show "kind" ≠ "metadata" by decide),
    Fields.get_set_of_ne content _ (show "apiVersion" ≠ "metadata" by decide)]
  rfl

/-- An object is stored under its identity, with its managed fields filled in. -/
theorem on_put {key : ObjectKey} (writable : Manifest.Writable object)
    (atKey : ObjectKey.ofManifest object = .ok key) : (put issuer previous object).on memory =
      (.ok (memory.stamped issuer (previousMetadata previous) object),
        memory.written issuer (previousMetadata previous) key object) := by
  rw [writable.ofManifest_eq] at atKey
  simp only [on_put_eq writable, Work.on_bind, on_file, Content.file_of_key atKey]
  rfl

/-- Without an identity an object is not stored, and what was given out for it is lost. -/
theorem on_put_of_error {fault : Fault} (writable : Manifest.Writable object)
    (noKey : ObjectKey.ofManifest object = .error fault) :
    ((put issuer previous object).on memory).1 = .error fault := by
  rw [writable.ofManifest_eq] at noKey
  have noKey : ObjectKey.of (Fields.get object.metadata "namespace")
      ((object.get? "kind").getD .null) ((object.get? "apiVersion").getD .null)
      (Fields.get object.metadata "name") = .error fault := noKey
  simp only [on_put_eq writable, Work.on_bind, on_file, Content.outcome_file, noKey]
  rfl

/-- What is no object, or has metadata that is none, cannot be stored, and nothing is given out for
it. -/
theorem on_put_of_not_writable (issuer : Issuer) (memory : Memory) (previous : Option Value)
    (unfit : ¬ Manifest.Writable object) :
    ∃ fault, (put issuer previous object).on memory = (.error fault, memory) := by
  cases object with
  | object content =>
    have unfit' (own : Fields) :
        (Fields.get? content "metadata").getD (.object []) ≠ .object own := by
      intro same
      refine unfit ⟨content, rfl, ?_⟩
      cases found : Fields.get? content "metadata" with
      | none => exact .inl rfl
      | some metadata => exact .inr ⟨own, congrArg some (by simpa [found] using same)⟩
    obtain ⟨fault, failure⟩ :=
      on_fill_of_not_object issuer memory (previousMetadata previous) unfit'
    refine ⟨fault, ?_⟩
    simp only [put, Work.on_bind, Value.fields, Work.on_lift, failure]
  | _ => exact ⟨.lacksOperation, rfl⟩

/-- An object is stored exactly if it can be written and has an identity. -/
theorem put_eq_ok_iff : (put issuer previous object).on memory = (.ok stored, after) ↔
    Manifest.Writable object ∧ ∃ key, ObjectKey.ofManifest object = .ok key ∧
      memory.stamped issuer (previousMetadata previous) object = stored ∧
      memory.written issuer (previousMetadata previous) key object = after := by
  by_cases writable : Manifest.Writable object
  · cases atKey : ObjectKey.ofManifest object with
    | ok key => simp [on_put writable atKey, writable]
    | error fault =>
      have failure : ((put issuer previous object).on memory).1 = .error fault :=
        on_put_of_error writable atKey
      refine iff_of_false (fun success => ?_) (by simp)
      rw [success] at failure
      contradiction
  · obtain ⟨fault, failure⟩ := on_put_of_not_writable issuer memory previous writable
    simp [writable, failure]

/-- A definition that has an identity is stored, or else the store stays as it is. -/
theorem on_put_of_fault {key : ObjectKey} {fault : Fault}
    (atKey : ObjectKey.ofManifest object = .ok key)
    (failure : ((put issuer previous object).on memory).1 = .error fault) :
    ((put issuer previous object).on memory).2 = memory := by
  by_cases writable : Manifest.Writable object
  · rw [on_put writable atKey] at failure
    contradiction
  · obtain ⟨_, failed⟩ := on_put_of_not_writable issuer memory previous writable
    rw [failed]

@[simp] theorem strict_written (before : Fields) (key : ObjectKey) (object : Value) :
    (memory.written issuer before key object).strict = memory.strict := rfl

@[simp] theorem versions_written (before : Fields) (key : ObjectKey) (object : Value) :
    (memory.written issuer before key object).versions = memory.versions + 1 := rfl

@[simp] theorem uids_written (before : Fields) (key : ObjectKey) (object : Value) :
    (memory.written issuer before key object).uids =
      memory.uids + if isNew "uid" before object.metadata then 1 else 0 := rfl

@[simp] theorem times_written (before : Fields) (key : ObjectKey) (object : Value) :
    (memory.written issuer before key object).times =
      memory.times + if isNew "creationTimestamp" before object.metadata then 1 else 0 := rfl

/-- A write changes what is found under its key and nowhere else. -/
theorem find?_written (before : Fields) (key other : ObjectKey) (object : Value) :
    (memory.written issuer before key object).find? other =
      if key.same other then some (memory.stamped issuer before object) else memory.find? other :=
  Content.find?_put memory.content key other _

theorem managed_truthy (name : String) (before own : Fields) {new : String} (given : new ≠ "") :
    (managed name before own new).truthy = true := by
  unfold managed Value.orElse
  split_ifs with early here
  · exact early
  · exact here
  · simpa [Value.truthy] using given

/-- A managed field that is there stays as it is, and nothing is issued for it. -/
theorem managed_of_truthy {name : String} {before : Fields}
    (given : (Fields.get before name).truthy = true) (own : Fields) (new : String) :
    some (managed name before own new) = Fields.get? before name ∧
      isNew name before own = false := by
  rw [Fields.get?_of_truthy given]
  simp [managed, isNew, Value.orElse, given]

/-- Without an object before, a managed field is as given or else new. -/
theorem managed_nil (name : String) (own : Fields) (new : String) :
    managed name [] own new = (Fields.get own name).orElse (.text new) ∧
      isNew name [] own = !(Fields.get own name).truthy := by
  simp [managed, isNew, Value.orElse, Fields.get, Value.truthy]

@[simp] theorem get?_stamp_uid (before own : Fields) :
    Fields.get? (memory.stamp issuer before own) "uid" =
      some (managed "uid" before own (issuer.uid (memory.uids + 1))) := by
  simp [stamp, Fields.get?_set_of_ne]

@[simp] theorem get?_stamp_creationTimestamp (before own : Fields) :
    Fields.get? (memory.stamp issuer before own) "creationTimestamp" =
      some (managed "creationTimestamp" before own (issuer.time (memory.times + 1))) := by
  simp [stamp, Fields.get?_set_of_ne]

@[simp] theorem get?_stamp_resourceVersion (before own : Fields) :
    Fields.get? (memory.stamp issuer before own) "resourceVersion" =
      some (.text (toString (memory.versions + 1))) := by
  simp [stamp]

/-- An object is stored as it is given, but for the managed fields. -/
theorem agree_stamped (formed : Manifest.Formed object) (before : Fields) :
    Manifest.Agree managedNames (memory.stamped issuer before object) object where
  left := formed.withMetadata _
  right := formed
  content name other := Manifest.get?_withMetadata_of_ne _ _ other
  metadata name kept := by
    rw [stamped, formed.metadata_withMetadata, get?_stamp_of_not_mem _ _ kept]

end Store.Memory

end ManifestOwnership
