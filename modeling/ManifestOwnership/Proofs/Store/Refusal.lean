import ManifestOwnership.Proofs.Store.Optimistic

/-! # What a store refuses

A write that is refused leaves the store as it was, wherever it is found out that the write is not
possible. If the identity can be made at all, the reasons are those that a read of it shows: what is
there is not created again, what is not there is not updated, and a strict store updates no other
version than the one it is asked for. Nothing else is refused.
-/

namespace ManifestOwnership

/-- A manifest whose identity is made of values that hold no others. -/
structure Manifest.Identified (definition : Value) : Prop where
  formed : Formed definition
  apiVersion : ((definition.get? "apiVersion").getD .null).isKey = true
  kind : ((definition.get? "kind").getD .null).isKey = true
  name : (Fields.get definition.metadata "name").isKey = true
  scope : (Fields.get definition.metadata "namespace").isKey = true

theorem Manifest.Identified.exists_key {definition : Value} (identified : Identified definition) :
    ∃ own, key definition = .ok own :=
  ⟨_, Store.ObjectKey.of_eq_ok (.inl identified.scope) identified.kind identified.apiVersion
    identified.name⟩

namespace Store

/-- The request that reads what has the identity of a manifest. -/
def Request.reading (definition : Value) : Request :=
  .get ((definition.get? "apiVersion").getD .null) ((definition.get? "kind").getD .null)
    (Fields.get definition.metadata "name") (Fields.get definition.metadata "namespace")

namespace Memory

variable {issuer : Issuer} {memory : Memory} {own : ObjectKey} {definition object : Value}
  {identity : String}

/-- What is there is not created again. -/
theorem reply_create_of_some (issuer : Issuer) (named : Manifest.identity definition = .ok identity)
    (atOwn : ObjectKey.ofManifest definition = .ok own) (present : memory.find? own = some object) :
    (memory.answer issuer (.create definition)).reply =
      .error (.problem .objectExists (identity ++ " already exists")) := by
  rw [answer, named]
  simp only [on_create atOwn, present, Option.isSome_some, if_true]

/-- What is not there is created, if it can be stored. -/
theorem exists_reply_create (issuer : Issuer) (writable : Manifest.Writable definition)
    (atOwn : Manifest.key definition = .ok own) (absent : memory.find? own = none) :
    ∃ stored, (memory.answer issuer (.create definition)).reply = .ok stored := by
  refine ⟨memory.stamped issuer (memory.before own) definition, ?_⟩
  apply And.left
  rw [← Interaction.yields_ask_iff, yields_create_iff]
  exact ⟨writable, own, atOwn, absent, rfl, rfl⟩

/-- What is not there is not updated. -/
theorem reply_update_of_none (issuer : Issuer) (named : Manifest.identity definition = .ok identity)
    (atOwn : ObjectKey.ofManifest definition = .ok own) (absent : memory.find? own = none) :
    (memory.answer issuer (.update definition)).reply =
      .error (.problem .objectMissing (identity ++ " not found")) := by
  have missing : (memory.replaced identity definition).outcome =
      .error (.problem .objectMissing (identity ++ " not found")) := by
    simp only [replaced, atOwn, absent, Log.Reported.outcome_bind, Log.Reported.outcome_lift,
      Log.Reported.outcome_fail, ok_bind]
  rw [answer, named]
  simp only [on_update, missing]

/-- A manifest is not created exactly if a read of its identity finds an object. -/
theorem reply_create_eq_error_iff (issuer : Issuer) (writable : Manifest.Writable definition)
    (named : Manifest.identity definition = .ok identity)
    (atOwn : Manifest.key definition = .ok own) {fault : Fault} :
    (memory.answer issuer (.create definition)).reply = .error fault ↔
      (∃ object, (memory.answer issuer (.reading definition)).reply = .ok object) ∧
        fault = .problem .objectExists (identity ++ " already exists") := by
  cases found : memory.find? own with
  | none =>
    obtain ⟨stored, created⟩ := exists_reply_create issuer writable atOwn found
    obtain ⟨absence, missing, _⟩ : ∃ absence, (memory.answer issuer (.reading definition)).reply =
        .error absence ∧ _ := reply_get_of_none issuer atOwn found
    simp [created, missing]
  | some current =>
    have there : (memory.answer issuer (.reading definition)).reply = .ok current :=
      reply_get_of_some atOwn found
    rw [reply_create_of_some issuer named (writable.ofManifest_eq.trans atOwn) found, there]
    simp [eq_comm]

/-- A manifest is not updated exactly if a read of its identity finds nothing, or finds another
version than a strict store is asked for. -/
theorem reply_update_eq_error_iff (issuer : Issuer) (formed : Manifest.Formed definition)
    (named : Manifest.identity definition = .ok identity)
    (atOwn : Manifest.key definition = .ok own) {fault : Fault} :
    (memory.answer issuer (.update definition)).reply = .error fault ↔
      ((∃ absence, (memory.answer issuer (.reading definition)).reply = .error absence ∧
            absence.isObjectMissing = true) ∧
          fault = .problem .objectMissing (identity ++ " not found")) ∨
        ∃ object, (memory.answer issuer (.reading definition)).reply = .ok object ∧
          memory.strict = true ∧ (versionOf definition).truthy = true ∧
          (versionOf definition).same (versionOf object) = false ∧
          fault = .problem .objectConflict (identity ++ " has resourceVersion " ++
            (versionOf object).display ++ ", not " ++ (versionOf definition).display) := by
  cases found : memory.find? own with
  | none =>
    obtain ⟨absence, missing, isMissing⟩ : ∃ absence,
        (memory.answer issuer (.reading definition)).reply = .error absence ∧
          absence.isObjectMissing = true := reply_get_of_none issuer atOwn found
    rw [reply_update_of_none issuer named (formed.writable.ofManifest_eq.trans atOwn) found,
      missing]
    constructor
    · rintro ⟨⟩
      exact .inl ⟨⟨absence, rfl, isMissing⟩, rfl⟩
    · rintro (⟨_, rfl⟩ | ⟨_, ⟨⟩, _⟩)
      rfl
  | some current =>
    have there : (memory.answer issuer (.reading definition)).reply = .ok current :=
      reply_get_of_some atOwn found
    cases outdated : memory.isOutdated (versionOf definition) (versionOf current) with
    | true =>
      have differs : memory.strict = true ∧ (versionOf definition).truthy = true ∧
          (versionOf definition).same (versionOf current) = false := by
        simpa [isOutdated, and_assoc] using outdated
      rw [reply_update_of_isOutdated issuer formed named atOwn found outdated, there]
      constructor
      · rintro ⟨⟩
        exact .inr ⟨current, rfl, differs.1, differs.2.1, differs.2.2, rfl⟩
      · rintro (⟨⟨_, ⟨⟩, _⟩, _⟩ | ⟨_, ⟨⟩, _, _, _, rfl⟩)
        rfl
    | false =>
      obtain ⟨stored, updated⟩ : ∃ stored,
          (memory.answer issuer (.update definition)).reply = .ok stored :=
        exists_reply_update formed atOwn found outdated
      rw [updated, there]
      constructor
      · rintro ⟨⟩
      · rintro (⟨⟨_, ⟨⟩, _⟩, _⟩ | ⟨_, ⟨⟩, strict, given, differs, _⟩)
        simp [isOutdated, strict, given, differs] at outdated

/-- Whatever a store is asked to write, it stays as it is if that fails. A manifest whose identity
is made of values that hold no others is not created exactly if a read of the identity finds an
object, and not updated exactly if the read finds nothing or, in a strict store, another version
than the one that is asked for. -/
theorem refuses_iff (issuer : Issuer) (memory : Memory) :
    (∀ r fault, (memory.answer issuer r).reply = .error fault →
        (memory.answer issuer r).state = memory) ∧
      ∀ definition, Manifest.Identified definition →
        ∃ identity, Manifest.identity definition = .ok identity ∧
          (∀ fault, (memory.answer issuer (.create definition)).reply = .error fault ↔
            (∃ object, (memory.answer issuer (.reading definition)).reply = .ok object) ∧
              fault = .problem .objectExists (identity ++ " already exists")) ∧
          ∀ fault, (memory.answer issuer (.update definition)).reply = .error fault ↔
            ((∃ absence, (memory.answer issuer (.reading definition)).reply = .error absence ∧
                  absence.isObjectMissing = true) ∧
                fault = .problem .objectMissing (identity ++ " not found")) ∨
              ∃ object, (memory.answer issuer (.reading definition)).reply = .ok object ∧
                memory.strict = true ∧ (versionOf definition).truthy = true ∧
                (versionOf definition).same (versionOf object) = false ∧
                fault = .problem .objectConflict (identity ++ " has resourceVersion " ++
                  (versionOf object).display ++ ", not " ++ (versionOf definition).display) := by
  refine ⟨fun _ _ => state_of_fault, fun definition identified => ?_⟩
  obtain ⟨own, atOwn⟩ := identified.exists_key
  obtain ⟨identity, named⟩ :=
    exists_identity (identified.formed.writable.ofManifest_eq.trans atOwn)
  exact ⟨identity, named,
    fun _ => reply_create_eq_error_iff issuer identified.formed.writable named atOwn,
    fun _ => reply_update_eq_error_iff issuer identified.formed named atOwn⟩

theorem identified_numbered (name version : String) :
    Manifest.Identified (numbered name version) where
  formed := ⟨_, _, rfl, rfl⟩
  apiVersion := rfl
  kind := rfl
  name := rfl
  scope := rfl

/-- A strict store that holds an object does not create it again, does not update it from a version
that it never had, and does not update an object that is not there. -/
theorem refuses_iff_numbered : ∃ memory,
    ofResources numerals true [numbered "a" ""] = .ok memory ∧
    (memory.answer numerals (.create (numbered "a" "7"))).reply =
      .error (.problem .objectExists "v1/ConfigMap/a already exists") ∧
    (memory.answer numerals (.update (numbered "a" "7"))).reply =
      .error (.problem .objectConflict "v1/ConfigMap/a has resourceVersion 1, not 7") ∧
    (memory.answer numerals (.update (numbered "a" "7"))).state = memory ∧
    (memory.answer numerals (.update (numbered "b" "7"))).reply =
      .error (.problem .objectMissing "v1/ConfigMap/b not found") := by
  obtain ⟨memory, start, strict, ⟨object, there, version⟩, missing⟩ : ∃ memory,
      ofResources numerals true [numbered "a" ""] = .ok memory ∧ memory.strict = true ∧
      (∃ object, (memory.answer numerals (.reading (numbered "a" "7"))).reply = .ok object ∧
        versionOf object = .text "1") ∧
      ∃ absence, (memory.answer numerals (.reading (numbered "b" "7"))).reply = .error absence ∧
        absence.isObjectMissing = true := ⟨_, rfl, rfl, ⟨_, rfl, rfl⟩, _, rfl, rfl⟩
  obtain ⟨kept, refused⟩ := refuses_iff numerals memory
  obtain ⟨_, named, created, updated⟩ := refused _ (identified_numbered "a" "7")
  obtain rfl := Except.ok.inj (named.symm.trans
    (show Manifest.identity (numbered "a" "7") = .ok "v1/ConfigMap/a" from rfl))
  have conflict := (updated _).mpr (.inr ⟨object, there, strict, rfl, version ▸ rfl, rfl⟩)
  refine ⟨memory, start, (created _).mpr ⟨⟨object, there⟩, rfl⟩, ?_, kept _ _ conflict, ?_⟩
  · rw [conflict, version]
    rfl
  · obtain ⟨_, named, _, updated⟩ := refused _ (identified_numbered "b" "7")
    obtain rfl := Except.ok.inj (named.symm.trans
      (show Manifest.identity (numbered "b" "7") = .ok "v1/ConfigMap/b" from rfl))
    exact (updated _).mpr (.inl ⟨missing, rfl⟩)

end Memory

end Store

end ManifestOwnership
