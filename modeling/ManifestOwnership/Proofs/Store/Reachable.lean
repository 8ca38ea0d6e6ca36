import ManifestOwnership.Proofs.Store.Write

/-! # Stores that answer requests

A store is reached from its first objects by answering requests. Whatever is asked, the objects of
a reachable store stay filed under their identities with the managed fields in place. A read leaves
the store, and a write that is refused does too.
-/

namespace ManifestOwnership.Store.Memory

variable {issuer : Issuer} {memory after : Memory} {key other : ObjectKey}
  {definition object stored : Value}

/-- What a store holds under a key: a manifest of that identity with its managed fields. -/
structure Held (versions : Nat) (key : ObjectKey) (object : Value) : Prop where
  formed : Manifest.Formed object
  filed : ∃ own, Manifest.key object = .ok own ∧ own.same key = true
  identified : (Fields.get object.metadata "uid").truthy = true
  timed : (Fields.get object.metadata "creationTimestamp").truthy = true
  versioned : ∃ n, n < versions ∧
    Fields.get object.metadata "resourceVersion" = .text (toString (n + 1))

/-- Every key stands once, and under it the object of that identity. -/
structure Sound (memory : Memory) : Prop where
  apart : memory.content.Apart
  held : ∀ key object, memory.find? key = some object → Held memory.versions key object

/-- The objects of a store are those found under some key. -/
theorem Sound.mem_objects_iff (sound : memory.Sound) :
    object ∈ memory.objects ↔ ∃ key, memory.find? key = some object := by
  simp only [objects, Content.objects, List.mem_map, find?,
    Content.find?_eq_some_iff sound.apart]
  constructor
  · rintro ⟨entry, member, rfl⟩
    exact ⟨entry.1, entry.1, member, ObjectKey.same_refl _⟩
  · rintro ⟨_, own, member, _⟩
    exact ⟨(own, object), member, rfl⟩

/-- An identity that finds an object is the identity of one object. -/
theorem Sound.countP_hasKey (sound : memory.Sound) (found : memory.find? key = some object) :
    memory.objects.countP (Manifest.hasKey key) = 1 := by
  rw [objects, Content.objects, List.countP_map, ← Content.countP_eq_one sound.apart found]
  refine List.countP_congr fun entry member => ?_
  have there : memory.find? entry.1 = some entry.2 :=
    sound.apart.find?_of_mem member
  obtain ⟨own, atOwn, same⟩ := (sound.held entry.1 entry.2 there).filed
  rw [Function.comp, Manifest.hasKey_eq atOwn, ObjectKey.same_congr_left same]

theorem Held.mono {versions versions' : Nat} (held : Held versions key object)
    (le : versions ≤ versions') : Held versions' key object := by
  obtain ⟨n, below, version⟩ := held.versioned
  exact { held with versioned := ⟨n, by omega, version⟩ }

/-- Versions are told apart by their texts. -/
theorem versionText_inj {m n : Nat}
    (same : Value.text (toString m) = .text (toString n)) : m = n := by
  have digits := congrArg (fun s => Nat.ofDigitChars 10 s.toList 0) (Value.text.inj same)
  simpa only [Nat.toString_eq_repr, Nat.toList_repr, Nat.ofDigitChars_ten_toDigits] using digits

/-- The version of an object in a store counts as given. -/
theorem Held.version_truthy {versions : Nat} (held : Held versions key object) :
    (Fields.get object.metadata "resourceVersion").truthy = true := by
  obtain ⟨n, _, version⟩ := held.versioned
  rw [version, Value.truthy, bne_iff_ne]
  exact Nat.repr_ne_empty

theorem versionOf_eq (formed : Manifest.Formed object) :
    versionOf object = Fields.get object.metadata "resourceVersion" := by
  obtain ⟨content, rfl, found⟩ := formed.eq_object
  simp [versionOf, Request.fieldOrNull, Fields.get, found]

/-- A request for the version that an object has is in time. -/
theorem isOutdated_self (memory : Memory) (version : Value) :
    memory.isOutdated version version = false := by
  simp [isOutdated]

/-- The fields of the metadata that a write to a key goes by. -/
def before (memory : Memory) (key : ObjectKey) : Fields :=
  previousMetadata (memory.find? key)

theorem before_of_none (absent : memory.find? key = none) : memory.before key = [] := by
  rw [before, absent]
  rfl

theorem Sound.before_of_some (sound : memory.Sound) (present : memory.find? key = some object) :
    memory.before key = object.metadata := by
  obtain ⟨content, rfl, found⟩ := (sound.held key object present).formed.eq_object
  simp [before, present, previousMetadata, Fields.get, found]

theorem held_stamped (writable : Manifest.Writable object)
    (atKey : Manifest.key object = .ok key) (same : key.same other = true) (before : Fields) :
    Held (memory.versions + 1) other (memory.stamped issuer before object) where
  formed := writable.formed_withMetadata _
  filed := by
    refine ⟨key, ?_, same⟩
    calc Manifest.key (memory.stamped issuer before object)
      _ = ObjectKey.ofManifest (memory.stamped issuer before object) :=
        (writable.formed_withMetadata _).writable.ofManifest_eq.symm
      _ = ObjectKey.ofManifest object := ofManifest_stamped writable before
      _ = Manifest.key object := writable.ofManifest_eq
      _ = .ok key := atKey
  identified := by
    rw [stamped, writable.metadata_withMetadata, Fields.get, get?_stamp_uid]
    exact managed_truthy _ _ _ (issuer.uid_ne_empty _)
  timed := by
    rw [stamped, writable.metadata_withMetadata, Fields.get, get?_stamp_creationTimestamp]
    exact managed_truthy _ _ _ (issuer.time_ne_empty _)
  versioned := by
    refine ⟨memory.versions, Nat.lt_succ_self _, ?_⟩
    rw [stamped, writable.metadata_withMetadata, Fields.get, get?_stamp_resourceVersion]
    rfl

/-- A store stays sound when an object is written under its identity. -/
theorem Sound.written (sound : memory.Sound) (writable : Manifest.Writable object)
    (atKey : Manifest.key object = .ok key) (before : Fields) :
    (memory.written issuer before key object).Sound where
  apart := sound.apart.put key _
  held other found present := by
    rw [find?_written] at present
    split_ifs at present with same
    · obtain rfl := Option.some.inj present
      exact held_stamped writable atKey same before
    · exact (sound.held other found present).mono (Nat.le_succ _)

theorem Sound.put {previous : Option Value} (sound : memory.Sound)
    (success : (Memory.put issuer previous object).on memory = (.ok stored, after)) :
    after.Sound := by
  obtain ⟨writable, key, atKey, _, rfl⟩ := put_eq_ok_iff.mp success
  exact sound.written writable (writable.ofManifest_eq.symm.trans atKey) _

theorem sound_empty (strict : Bool) : (empty strict).Sound :=
  ⟨Content.apart_nil, fun _ _ found => nomatch found⟩

/-- A store is set up with resources one after another, which it keeps as some objects. -/
inductive Stocks (issuer : Issuer) : Memory → List Value → List Value → Memory → Prop where
  | nil {memory : Memory} : Stocks issuer memory [] [] memory
  | cons {memory middle after : Memory} {resource stored : Value} {resources objects : List Value}
      (put : (put issuer none resource).on memory = (.ok stored, middle))
      (rest : Stocks issuer middle resources objects after) :
      Stocks issuer memory (resource :: resources) (stored :: objects) after

/-- A store that holds objects from the start has been set up with them. -/
theorem exists_stocks {strict : Bool} {resources : List Value}
    (success : ofResources issuer strict resources = .ok memory) :
    ∃ objects, Stocks issuer (empty strict) resources objects memory := by
  rw [ofResources] at success
  generalize empty strict = start at success ⊢
  induction resources generalizing start with
  | nil =>
    obtain rfl : start = memory := by simpa using success
    exact ⟨[], .nil⟩
  | cons resource rest ih =>
    simp only [List.foldlM_cons, bind_eq_ok_iff, map_eq_ok_iff] at success
    obtain ⟨_, ⟨stored, put, rfl⟩, success⟩ := success
    obtain ⟨objects, stocks⟩ := ih _ success
    exact ⟨stored :: objects, .cons (Prod.ext put rfl) stocks⟩

/-- What every write of a first object keeps is kept while a store is set up. -/
theorem Stocks.keeps {resources objects : List Value} (property : Memory → Prop)
    (step : ∀ memory resource stored after, property memory →
      (put issuer none resource).on memory = (.ok stored, after) → property after)
    (stocks : Stocks issuer memory resources objects after) (holds : property memory) :
    property after := by
  induction stocks with
  | nil => exact holds
  | cons put rest ih => exact ih (step _ _ _ _ holds put)

/-- So it holds of a store that holds objects from the start. -/
theorem ofResources_keeps (property : Memory → Prop) {strict : Bool} {resources : List Value}
    (step : ∀ memory resource stored after, property memory →
      (put issuer none resource).on memory = (.ok stored, after) → property after)
    (success : ofResources issuer strict resources = .ok memory)
    (holds : property (empty strict)) : property memory := by
  obtain ⟨objects, stocks⟩ := exists_stocks success
  exact stocks.keeps property step holds

/-- A store that holds objects from the start is sound. -/
theorem sound_ofResources {strict : Bool} {resources : List Value}
    (success : ofResources issuer strict resources = .ok memory) : memory.Sound :=
  ofResources_keeps Sound (fun _ _ _ _ sound put => sound.put put) success (sound_empty strict)

theorem strict_ofResources {strict : Bool} {resources : List Value}
    (success : ofResources issuer strict resources = .ok memory) : memory.strict = strict := by
  refine ofResources_keeps (·.strict = strict) (fun _ _ _ _ kept put => ?_) success rfl
  obtain ⟨_, key, _, _, rfl⟩ := put_eq_ok_iff.mp put
  exact kept

/-- A manifest with an identity can be named in messages. -/
theorem exists_identity (atKey : ObjectKey.ofManifest definition = .ok key) :
    ∃ identity, Manifest.identity definition = .ok identity := by
  simp only [ObjectKey.ofManifest, bind_eq_ok_iff] at atKey
  obtain ⟨metadata, readMetadata, scope, readScope, kind, readKind, apiVersion, readVersion, name,
    readName, _⟩ := atKey
  simp only [Manifest.identity, readMetadata, readScope, readKind, readVersion, readName, ok_bind]
  exact ⟨_, rfl⟩

/-- Creating an object stores it unless something has its identity. -/
theorem on_create {identity : String} (atKey : ObjectKey.ofManifest definition = .ok key) :
    (create issuer identity definition).on memory =
      if (memory.find? key).isSome then
        (.error (.problem .objectExists (identity ++ " already exists")), memory)
      else (put issuer none definition).on memory := by
  simp only [create, Work.on_bind, Work.on_lift, atKey, Work.on_getThe]
  split <;> rfl

/-- An update replaces the object that it finds. -/
theorem on_update {identity : String} : (update issuer identity definition).on memory =
    match (memory.replaced identity definition).outcome with
    | .error fault => (.error fault, memory)
    | .ok current => (put issuer (some current) definition).on memory := by
  simp only [update, Work.on_bind, Work.on_lift, Work.on_getThe]
  cases (memory.replaced identity definition).outcome <;> rfl

private theorem create_eq_ok_iff {identity : String} :
    (create issuer identity definition).on memory = (.ok stored, after) ↔
      ∃ key, ObjectKey.ofManifest definition = .ok key ∧ memory.find? key = none ∧
        (put issuer none definition).on memory = (.ok stored, after) := by
  cases atKey : ObjectKey.ofManifest definition with
  | error fault => simp [create, Work.on_bind, atKey]
  | ok key =>
    rw [on_create atKey]
    cases found : memory.find? key <;> simp [found]

/-- An update replaces what is found under the identity, if the version asked for is not
outdated. -/
theorem replaced_eq_ok_iff {identity : String} :
    (memory.replaced identity definition).outcome = .ok object ↔
      ∃ key metadata requested, ObjectKey.ofManifest definition = .ok key ∧
        memory.find? key = some object ∧ definition.fieldOrEmpty "metadata" = .ok metadata ∧
        metadata.field "resourceVersion" = .ok requested ∧
        memory.isOutdated requested (versionOf object) = false := by
  simp only [replaced, Log.Reported.outcome_bind, Log.Reported.outcome_lift, bind_eq_ok_iff]
  refine exists_congr fun key => ?_
  simp only [exists_and_left]
  refine and_congr_right fun _ => ?_
  cases found : memory.find? key with
  | none => simp
  | some current =>
    simp only [Log.Reported.outcome_bind, Log.Reported.outcome_lift, bind_eq_ok_iff,
      Option.some.injEq]
    constructor
    · rintro ⟨metadata, read, requested, asked, success⟩
      split at success
      · simp at success
      · next timely =>
        obtain rfl := Except.ok.inj success
        exact ⟨rfl, metadata, read, requested, asked, by simpa using timely⟩
    · rintro ⟨rfl, metadata, read, requested, asked, timely⟩
      refine ⟨metadata, read, requested, asked, ?_⟩
      simp [timely]

private theorem update_eq_ok_iff {identity : String} :
    (update issuer identity definition).on memory = (.ok stored, after) ↔
      Manifest.Writable definition ∧ ∃ key current, ObjectKey.ofManifest definition = .ok key ∧
        memory.find? key = some current ∧
        memory.isOutdated (Fields.get definition.metadata "resourceVersion")
          (versionOf current) = false ∧
        (put issuer (some current) definition).on memory = (.ok stored, after) := by
  rw [on_update]
  constructor
  · intro success
    cases replaces : (memory.replaced identity definition).outcome with
    | error fault => simp [replaces] at success
    | ok current =>
      simp only [replaces] at success
      have writable := (put_eq_ok_iff.mp success).1
      obtain ⟨key, metadata, requested, atKey, present, read, asked, timely⟩ :=
        replaced_eq_ok_iff.mp replaces
      rw [writable.fieldOrEmpty_metadata] at read
      obtain rfl := Except.ok.inj read
      obtain rfl := Except.ok.inj asked
      exact ⟨writable, key, current, atKey, present, timely, success⟩
  · rintro ⟨writable, key, current, atKey, present, timely, success⟩
    have replaces : (memory.replaced identity definition).outcome = .ok current :=
      replaced_eq_ok_iff.mpr
        ⟨key, _, _, atKey, present, writable.fieldOrEmpty_metadata, rfl, timely⟩
    simp only [replaces, success]

/-- An object is created exactly if it can be stored and nothing has its identity. -/
theorem yields_create_iff :
    Interaction.Yields (answer issuer) memory (.ask (.create definition)) stored after ↔
      Manifest.Writable definition ∧ ∃ key, Manifest.key definition = .ok key ∧
        memory.find? key = none ∧
        memory.stamped issuer (memory.before key) definition = stored ∧
        memory.written issuer (memory.before key) key definition = after := by
  have answered : Interaction.Yields (answer issuer) memory (.ask (.create definition)) stored
      after ↔ ∃ identity, Manifest.identity definition = .ok identity ∧
        (create issuer identity definition).on memory = (.ok stored, after) := by
    rw [Interaction.yields_ask_iff, answer]
    cases Manifest.identity definition <;> simp [Prod.ext_iff]
  rw [answered]
  simp only [create_eq_ok_iff, put_eq_ok_iff]
  constructor
  · rintro ⟨_, _, key, atKey, absent, writable, key', atKey', rfl, rfl⟩
    obtain rfl := Except.ok.inj (atKey.symm.trans atKey')
    rw [writable.ofManifest_eq] at atKey
    refine ⟨writable, key, atKey, absent, ?_, ?_⟩ <;> rw [before_of_none absent] <;> rfl
  · rintro ⟨writable, key, atKey, absent, rfl, rfl⟩
    rw [← writable.ofManifest_eq] at atKey
    obtain ⟨identity, named⟩ := exists_identity atKey
    rw [before_of_none absent]
    exact ⟨identity, named, key, atKey, absent, writable, key, atKey, rfl, rfl⟩

/-- An object is updated exactly if it can be stored, its identity is there, and a strict store is
not asked for another version than it has. -/
theorem yields_update_iff :
    Interaction.Yields (answer issuer) memory (.ask (.update definition)) stored after ↔
      Manifest.Writable definition ∧ ∃ key current, Manifest.key definition = .ok key ∧
        memory.find? key = some current ∧
        memory.isOutdated (Fields.get definition.metadata "resourceVersion")
          (versionOf current) = false ∧
        memory.stamped issuer (memory.before key) definition = stored ∧
        memory.written issuer (memory.before key) key definition = after := by
  have answered : Interaction.Yields (answer issuer) memory (.ask (.update definition)) stored
      after ↔ ∃ identity, Manifest.identity definition = .ok identity ∧
        (update issuer identity definition).on memory = (.ok stored, after) := by
    rw [Interaction.yields_ask_iff, answer]
    cases Manifest.identity definition <;> simp [Prod.ext_iff]
  rw [answered]
  constructor
  · rintro ⟨_, _, success⟩
    simp only [update_eq_ok_iff, put_eq_ok_iff] at success
    obtain ⟨writable, key, current, atKey, present, timely, _, key', atKey', rfl, rfl⟩ := success
    obtain rfl := Except.ok.inj (atKey.symm.trans atKey')
    rw [writable.ofManifest_eq] at atKey
    refine ⟨writable, key, current, atKey, present, timely, ?_, ?_⟩ <;> rw [before, present]
  · rintro ⟨writable, key, current, atKey, present, timely, rfl, rfl⟩
    rw [← writable.ofManifest_eq] at atKey
    obtain ⟨identity, named⟩ := exists_identity atKey
    simp only [update_eq_ok_iff, put_eq_ok_iff, before, present]
    exact ⟨identity, named, writable, key, current, atKey, present, timely, writable, key, atKey,
      rfl, rfl⟩

private theorem state_of_create {identity : String} {fault : Fault}
    (failure : ((create issuer identity definition).on memory).1 = .error fault) :
    ((create issuer identity definition).on memory).2 = memory := by
  cases atKey : ObjectKey.ofManifest definition with
  | error fault => simp [create, Work.on_bind, atKey]
  | ok key =>
    rw [on_create atKey] at failure ⊢
    split_ifs at failure ⊢
    · rfl
    · exact on_put_of_fault atKey failure

private theorem state_of_update {identity : String} {fault : Fault}
    (failure : ((update issuer identity definition).on memory).1 = .error fault) :
    ((update issuer identity definition).on memory).2 = memory := by
  rw [on_update] at failure ⊢
  cases replaces : (memory.replaced identity definition).outcome with
  | error fault => rfl
  | ok current =>
    obtain ⟨key, _, _, atKey, _⟩ := replaced_eq_ok_iff.mp replaces
    simp only [replaces] at failure ⊢
    exact on_put_of_fault atKey failure

/-- A request that ends in a fault leaves the store: the identity is made before anything is given
out, and an object that cannot be filled in is found out before that too. -/
theorem state_of_fault {request : Request} {fault : Fault}
    (failure : (memory.answer issuer request).reply = .error fault) :
    (memory.answer issuer request).state = memory := by
  cases request with
  | get apiVersion kind name scope => rfl
  | create definition =>
    rw [answer] at failure ⊢
    cases named : Manifest.identity definition with
    | error _ => rfl
    | ok identity =>
      simp only [named] at failure
      exact state_of_create failure
  | update definition =>
    rw [answer] at failure ⊢
    cases named : Manifest.identity definition with
    | error _ => rfl
    | ok identity =>
      simp only [named] at failure
      exact state_of_update failure

/-- An answer leaves the store, or writes a manifest under its identity and replies with the object
as it is stored. -/
theorem answer_cases (issuer : Issuer) (memory : Memory) (request : Request) :
    ((request.isWrite = false ∨
          ∃ fault, (memory.answer issuer request).reply = .error fault) ∧
        (memory.answer issuer request).state = memory) ∨
      ∃ definition key, (request = .create definition ∧ memory.find? key = none ∨
          request = .update definition ∧ ∃ current, memory.find? key = some current) ∧
        Manifest.Writable definition ∧ Manifest.key definition = .ok key ∧
        (memory.answer issuer request).reply =
          .ok (memory.stamped issuer (memory.before key) definition) ∧
        (memory.answer issuer request).state =
          memory.written issuer (memory.before key) key definition := by
  cases reply : (memory.answer issuer request).reply with
  | error fault => exact .inl ⟨.inr ⟨fault, rfl⟩, state_of_fault reply⟩
  | ok stored =>
    have asked := Interaction.yields_ask_iff.mpr ⟨reply, rfl⟩
    cases request with
    | get apiVersion kind name scope => exact .inl ⟨.inl rfl, rfl⟩
    | create definition =>
      obtain ⟨writable, key, atKey, absent, rfl, state⟩ := yields_create_iff.mp asked
      exact .inr ⟨definition, key, .inl ⟨rfl, absent⟩, writable, atKey, rfl, state.symm⟩
    | update definition =>
      obtain ⟨writable, key, current, atKey, present, _, rfl, state⟩ :=
        yields_update_iff.mp asked
      exact .inr ⟨definition, key, .inr ⟨rfl, current, present⟩, writable, atKey, rfl,
        state.symm⟩

theorem Sound.answer (sound : memory.Sound) (request : Request) :
    (memory.answer issuer request).state.Sound := by
  obtain ⟨_, unchanged⟩ | ⟨definition, key, _, writable, atKey, _, state⟩ :=
    answer_cases issuer memory request
  · rwa [unchanged]
  · rw [state]
    exact sound.written writable atKey _

/-- A store that starts with some objects and has answered requests since then. -/
inductive Reachable (issuer : Issuer) : Memory → Prop where
  | start {strict : Bool} {resources : List Value} {memory : Memory}
      (success : ofResources issuer strict resources = .ok memory) : Reachable issuer memory
  | answer {memory : Memory} (request : Request) (earlier : Reachable issuer memory) :
      Reachable issuer (memory.answer issuer request).state

/-- A store that begins with nothing is reachable. -/
theorem reachable_empty (issuer : Issuer) (strict : Bool) : (empty strict).Reachable issuer :=
  .start (show ofResources issuer strict [] = .ok _ from rfl)

def numerals : Issuer where
  uid := Nat.repr
  time := Nat.repr
  uid_ne_empty _ := Nat.repr_ne_empty
  time_ne_empty _ := Nat.repr_ne_empty

theorem Reachable.sound (reachable : Reachable issuer memory) : memory.Sound := by
  induction reachable with
  | start success => exact sound_ofResources success
  | answer request _ ih => exact ih.answer request

/-- An activity against a sound store leaves a sound store. -/
theorem Sound.run {α : Type} (sound : memory.Sound) (activity : Interaction Request Value α) :
    (activity.run (Memory.answer issuer) memory).state.Sound := by
  induction activity generalizing memory with
  | done a => exact sound
  | fail fault => exact sound
  | report event rest ih => exact ih sound
  | request r resume ih => exact ih _ (sound.answer r)

theorem Sound.yields {α : Type} {activity : Interaction Request Value α} {result : α}
    (sound : memory.Sound)
    (success : Interaction.Yields (Memory.answer issuer) memory activity result after) :
    after.Sound :=
  success.2 ▸ sound.run activity

end ManifestOwnership.Store.Memory
