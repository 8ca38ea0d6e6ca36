import ManifestOwnership.Proofs.Store.Course

/-! # No update is lost

A client reads an object, thinks, and updates it with the version that it has read. Meanwhile any
number of others may have asked the store for anything. A strict store takes the update exactly if
none of them has written the object: versions are counted up and never given out twice, so a version
that is still there says that the object is still the one that was read.
-/

namespace ManifestOwnership.Store.Memory

open Interaction

variable {issuer : Issuer} {memory later : Memory} {key own : ObjectKey}
  {definition object current : Value} {exchanges : List (Request × Except Fault Value)}

/-- A version that counts as given is read in the metadata of a manifest. -/
theorem formed_of_versionOf (given : (versionOf definition).truthy = true) :
    Manifest.Formed definition := by
  rw [Manifest.formed_iff_get?]
  cases definition with
  | object content =>
    rw [Value.get?_object]
    cases found : Fields.get? content "metadata" with
    | none => simp [versionOf, Request.fieldOrNull, Fields.get, found, Value.truthy] at given
    | some metadata =>
      cases metadata with
      | object fields => exact ⟨fields, rfl⟩
      | _ => simp [versionOf, Request.fieldOrNull, Fields.get, found, Value.truthy] at given
  | _ => simp [versionOf, Request.fieldOrNull, Value.truthy] at given

/-- A strict store that is asked for a version refuses if the version there is another one. -/
theorem isOutdated_of_ne {version : Value} {versions : Nat} (strict : memory.strict = true)
    (held : Held versions key object) (differs : version ≠ versionOf object) :
    memory.isOutdated (versionOf object) version = true := by
  rw [versionOf_eq held.formed] at differs ⊢
  rw [isOutdated, strict, held.version_truthy]
  obtain ⟨n, _, text⟩ := held.versioned
  rw [text] at differs ⊢
  have other : Value.same (.text (toString (n + 1))) version = false :=
    Bool.eq_false_iff.mpr fun same => differs (Value.same_text_iff.mp same)
  rw [other]
  rfl

/-- An update that is in time is taken, if the object is there. -/
theorem exists_reply_update (formed : Manifest.Formed definition)
    (atOwn : Manifest.key definition = .ok own) (present : memory.find? own = some current)
    (timely : memory.isOutdated (versionOf definition) (versionOf current) = false) :
    ∃ stored, (memory.answer issuer (.update definition)).reply = .ok stored := by
  rw [versionOf_eq formed] at timely
  refine ⟨memory.stamped issuer (memory.before own) definition, ?_⟩
  apply And.left
  rw [← yields_ask_iff, yields_update_iff]
  exact ⟨formed.writable, own, current, atOwn, present, timely, rfl, rfl⟩

/-- What a store says to an update that was made from an older version. -/
theorem reply_update_of_isOutdated (issuer : Issuer) {identity : String}
    (formed : Manifest.Formed definition) (named : Manifest.identity definition = .ok identity)
    (atOwn : Manifest.key definition = .ok own) (present : memory.find? own = some current)
    (outdated : memory.isOutdated (versionOf definition) (versionOf current) = true) :
    (memory.answer issuer (.update definition)).reply =
      .error (.problem .objectConflict (identity ++ " has resourceVersion " ++
        (versionOf current).display ++ ", not " ++ (versionOf definition).display)) := by
  have atOwn : ObjectKey.ofManifest definition = .ok own := by
    rw [formed.writable.ofManifest_eq, atOwn]
  have requested : (Value.object definition.metadata).field "resourceVersion" =
      .ok (versionOf definition) := by
    rw [versionOf_eq formed]
    rfl
  have refused : (memory.replaced identity definition).outcome =
      .error (.problem .objectConflict (identity ++ " has resourceVersion " ++
        (versionOf current).display ++ ", not " ++ (versionOf definition).display)) := by
    simp only [replaced, atOwn, present, formed.fieldOrEmpty_metadata, requested, outdated, if_true,
      Log.Reported.outcome_bind, Log.Reported.outcome_lift, Log.Reported.outcome_tell,
      Log.Reported.outcome_fail, ok_bind]
  rw [answer, named]
  simp only [on_update, refused]

/-- An update from the version that was read is in time if nobody has written the object since. -/
theorem exists_reply_update_of_not_written (sound : memory.Sound)
    (found : memory.find? key = some object)
    (since : Answers (answer issuer) memory exchanges later)
    (formed : Manifest.Formed definition) (atOwn : Manifest.key definition = .ok own)
    (same : own.same key = true) (sameVersion : versionOf definition = versionOf object)
    (unwritten : ¬ Written exchanges key) :
    ∃ stored, (later.answer issuer (.update definition)).reply = .ok stored := by
  have kept : later.find? key = some object :=
    ((find?_eq_iff_not_written sound since).mpr unwritten).trans found
  apply exists_reply_update formed atOwn ((Content.find?_congr same).trans kept)
  rw [sameVersion, isOutdated_self]

/-- It comes too late for a strict store if somebody has. -/
theorem exists_conflict_of_written (sound : memory.Sound) (strict : memory.strict = true)
    (found : memory.find? key = some object)
    (since : Answers (answer issuer) memory exchanges later)
    (formed : Manifest.Formed definition) (atOwn : Manifest.key definition = .ok own)
    (same : own.same key = true) (sameVersion : versionOf definition = versionOf object)
    (written : Written exchanges key) :
    ∃ message, (later.answer issuer (.update definition)).reply =
      .error (.problem .objectConflict message) := by
  obtain ⟨unwritten, _⟩ | ⟨_, stored, there, new⟩ := find?_of_answers sound since key
  · exact absurd written unwritten
  · have held := sound.held key object found
    have held' := (sound.of_answers since).held key stored there
    have outdated : later.isOutdated (versionOf definition) (versionOf stored) = true := by
      rw [sameVersion]
      apply isOutdated_of_ne ((strict_of_answers since).trans strict) held
      rw [versionOf_eq held.formed, versionOf_eq held'.formed]
      exact new.version_ne held
    obtain ⟨identity, named⟩ := exists_identity (formed.writable.ofManifest_eq.trans atOwn)
    exact ⟨_, reply_update_of_isOutdated issuer formed named atOwn
      ((Content.find?_congr same).trans there) outdated⟩

/-- However many requests a strict store has answered since an object was read: it takes an update
from the version that was read exactly if nobody has written the object in between, and then it
replaces the very object that was read. Otherwise it reports a conflict and stays as it is. -/
theorem update_succeeds_iff_not_written {resources : List Value}
    {apiVersion kind name scope : Value} {early late : List (Request × Except Fault Value)}
    (start : ofResources issuer true resources = .ok memory)
    (answers : Answers (answer issuer) memory
      (early ++ (.get apiVersion kind name scope, .ok object) :: late) later)
    (atKey : ObjectKey.of scope kind apiVersion name = .ok key)
    (atOwn : ObjectKey.ofManifest definition = .ok own) (same : own.same key = true)
    (sameVersion : versionOf definition = versionOf object) :
    ((∃ stored, (later.answer issuer (.update definition)).reply = .ok stored) ↔
        ¬ Written late key) ∧
      (¬ Written late key → later.find? key = some object) ∧
      (Written late key →
        (∃ message, (later.answer issuer (.update definition)).reply =
          .error (.problem .objectConflict message)) ∧
        (later.answer issuer (.update definition)).state = later) := by
  obtain ⟨middle, earlier, read, since⟩ := answers_append_iff.mp answers
  change Answers (answer issuer) middle late later at since
  have sound : middle.Sound := (sound_ofResources start).of_answers earlier
  have strict : middle.strict = true := by
    rw [strict_of_answers earlier, strict_ofResources start]
  have found : middle.find? key = some object := by
    obtain ⟨key', atKey', found⟩ := find?_of_reply read
    obtain rfl := Except.ok.inj (atKey'.symm.trans atKey)
    exact found
  have held := sound.held key object found
  have formed : Manifest.Formed definition := by
    apply formed_of_versionOf
    rw [sameVersion, versionOf_eq held.formed]
    exact held.version_truthy
  rw [formed.writable.ofManifest_eq] at atOwn
  have taken := exists_reply_update_of_not_written sound found since formed atOwn same sameVersion
  have refused := exists_conflict_of_written sound strict found since formed atOwn same sameVersion
  refine ⟨⟨?_, taken⟩, fun unwritten => ?_, fun written => ⟨refused written, ?_⟩⟩
  · rintro ⟨stored, success⟩ written
    obtain ⟨_, conflict⟩ := refused written
    rw [success] at conflict
    contradiction
  · exact ((find?_eq_iff_not_written sound since).mpr unwritten).trans found
  · obtain ⟨_, conflict⟩ := refused written
    exact state_of_fault conflict

def numbered (name version : String) : Value :=
  .object [("apiVersion", .text "v1"), ("kind", .text "ConfigMap"),
    ("metadata", .object [("name", .text name), ("resourceVersion", .text version)])]

def reading (name : String) : Request :=
  .get (.text "v1") (.text "ConfigMap") (.text name) .null

/-- An update from the version that was read is taken after another object has been written, and
refused once another client has written the object itself. -/
theorem update_succeeds_iff_not_written_numbered : ∃ early object reply reply' middle later,
    ofResources numerals true [] = .ok (empty true) ∧
    early.map (·.1) = [.create (numbered "a" "7"), .create (numbered "b" "")] ∧
    Answers (answer numerals) (empty true)
      (early ++ (reading "a", .ok object) :: [(.update (numbered "b" "2"), reply)]) middle ∧
    (∃ stored, (middle.answer numerals (.update (numbered "a" "1"))).reply = .ok stored) ∧
    Answers (answer numerals) (empty true) (early ++ (reading "a", .ok object) ::
      [(.update (numbered "b" "2"), reply), (.update (numbered "a" "1"), reply')]) later ∧
    (∃ message, (later.answer numerals (.update (numbered "a" "1"))).reply =
      .error (.problem .objectConflict message)) ∧
    (later.answer numerals (.update (numbered "a" "1"))).state = later := by
  have start : ofResources numerals true [] = .ok (empty true) := rfl
  have quiet := show Answers (answer numerals) (empty true)
    ([(.create (numbered "a" "7"), _), (.create (numbered "b" ""), _)] ++ (reading "a", .ok _) ::
      [(.update (numbered "b" "2"), _)]) _ from ⟨rfl, rfl, rfl, rfl, rfl⟩
  have contested := show Answers (answer numerals) (empty true)
    ([(.create (numbered "a" "7"), _), (.create (numbered "b" ""), _)] ++ (reading "a", .ok _) ::
      [(.update (numbered "b" "2"), _), (.update (numbered "a" "1"), _)]) _ from
      ⟨rfl, rfl, rfl, rfl, rfl, rfl⟩
  have atOwn := show ObjectKey.ofManifest (numbered "a" "1") = .ok _ from rfl
  refine ⟨_, _, _, _, _, _, start, rfl, quiet, ?_, contested, ?_⟩
  · obtain ⟨taken, _⟩ := update_succeeds_iff_not_written start quiet rfl atOwn rfl rfl
    refine taken.mpr ?_
    rintro ⟨exchange, member, _, _, own, atOther, same⟩
    obtain rfl := List.mem_singleton.mp member
    obtain rfl := Except.ok.inj atOther
    contradiction
  · obtain ⟨_, _, refused⟩ := update_succeeds_iff_not_written start contested rfl atOwn rfl rfl
    exact refused ⟨_, List.mem_cons_of_mem _ (List.mem_singleton_self _), rfl, ⟨_, rfl⟩, _, rfl,
      rfl⟩

end ManifestOwnership.Store.Memory
