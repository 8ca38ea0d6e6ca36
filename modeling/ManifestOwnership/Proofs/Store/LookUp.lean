import ManifestOwnership.Proofs.Store.Reply

/-! # Reading a store and looking through it

A read follows the four levels that an object is filed under, while a look-up goes through all the
objects and compares their fields. In every store that is reached from its first objects, whatever
has been asked of it, both find the same: each object stands where its own identity says, up to the
equality of values, and no two objects have the same identity. The one exception is a NaN, under
which an object can be filed and read, while a comparison with it fails. A write shows in the reads
of its own identity and in no others.
-/

namespace ManifestOwnership.Store

/-- A key is made of the parts of the identity as they are, with null for no namespace. -/
theorem ObjectKey.eq_of_of_eq_ok {scope kind apiVersion name : Value} {key : ObjectKey}
    (atKey : of scope kind apiVersion name = .ok key) :
    key = ⟨scope.orElse .null, kind, apiVersion, name⟩ := by
  have kept {value part : Value} (success : value.asKey = .ok part) : value = part := by
    unfold Value.asKey at success
    split_ifs at success
    exact Except.ok.inj success
  simp only [of, bind_eq_ok_iff, pure_eq_ok_iff] at atKey
  obtain ⟨_, atScope, _, atKind, _, atVersion, _, atName, rfl⟩ := atKey
  obtain rfl := kept atKind
  obtain rfl := kept atVersion
  obtain rfl := kept atName
  obtain rfl : scope.orElse .null = _ := kept atScope
  rfl

namespace Memory

variable {issuer : Issuer} {memory : Memory} {key own path : ObjectKey} {object stored : Value}
  {apiVersion kind name scope : Value}

/-- What is listed stands under its own identity. -/
theorem Sound.filed (sound : memory.Sound) (member : (path, object) ∈ memory.content.entries) :
    ∃ own, ObjectKey.ofManifest object = .ok own ∧ own.same path = true := by
  have held := sound.held path object (sound.apart.find?_of_mem member)
  obtain ⟨own, atOwn, same⟩ := held.filed
  exact ⟨own, held.formed.writable.ofManifest_eq.trans atOwn, same⟩

/-- No two objects have the same identity. -/
theorem Sound.pairwise_keys (sound : memory.Sound) :
    memory.objects.Pairwise fun one other => ∀ own own', ObjectKey.ofManifest one = .ok own →
      ObjectKey.ofManifest other = .ok own' → own.same own' = false := by
  refine List.pairwise_map.mpr (sound.apart.entries.imp_of_mem ?_)
  intro one other member member' apart own own' atOwn atOwn'
  obtain ⟨_, here, same⟩ := sound.filed member
  obtain rfl := Except.ok.inj (atOwn.symm.trans here)
  obtain ⟨_, there, same'⟩ := sound.filed member'
  obtain rfl := Except.ok.inj (atOwn'.symm.trans there)
  rw [ObjectKey.same_congr_left same, ObjectKey.same_congr_right same', apart]

/-- A read finds what stands under the key. -/
theorem get_eq_ok_iff (atKey : ObjectKey.of scope kind apiVersion name = .ok key) :
    memory.get apiVersion kind name scope = .ok object ↔ memory.find? key = some object := by
  rw [get, atKey, ok_bind]
  cases memory.find? key <;> simp [throw, throwThe, MonadExceptOf.throw]

/-- Whether something can be equal to an identity: no part of it is a NaN. -/
def comparable (apiVersion kind name scope : Value) : Bool :=
  [apiVersion, kind, name, scope].all fun part => !part.isNaN

/-- A manifest has the fields of an identity exactly if it has the key of it and that can be
compared with. -/
theorem isOf_eq (formed : Manifest.Formed object)
    (atKey : ObjectKey.of scope kind apiVersion name = .ok key)
    (atOwn : ObjectKey.ofManifest object = .ok own) :
    isOf apiVersion kind name scope object =
      (own.same key && comparable apiVersion kind name scope) := by
  rw [formed.writable.ofManifest_eq] at atOwn
  obtain ⟨content, rfl, found⟩ := formed.eq_object
  obtain rfl := ObjectKey.eq_of_of_eq_ok atKey
  obtain rfl := ObjectKey.eq_of_of_eq_ok atOwn
  rw [Bool.eq_iff_iff, Bool.and_eq_true, ObjectKey.same_iff]
  simp only [isOf, comparable, Value.equals, Value.isNaN_orElse_null, Request.fieldOrNull,
    Fields.get, found, Option.getD_some, Value.get?_object, List.all_cons, List.all_nil,
    Bool.and_true, Bool.and_eq_true]
  tauto

/-- What is listed has the fields of an identity exactly if it stands under the key of it and that
can be compared with. -/
theorem Sound.isOf_of_mem (sound : memory.Sound) (member : (path, object) ∈ memory.content.entries)
    (atKey : ObjectKey.of scope kind apiVersion name = .ok key) :
    isOf apiVersion kind name scope object =
      (path.same key && comparable apiVersion kind name scope) := by
  have held := sound.held path object (sound.apart.find?_of_mem member)
  obtain ⟨own, atOwn, same⟩ := sound.filed member
  rw [isOf_eq held.formed atKey atOwn, ObjectKey.same_congr_left same]

/-- A look-up finds what stands under the key, if that can be compared with. -/
theorem Sound.lookUp_eq_some_iff (sound : memory.Sound)
    (atKey : ObjectKey.of scope kind apiVersion name = .ok key) :
    memory.lookUp apiVersion kind name scope = some object ↔
      comparable apiVersion kind name scope = true ∧ memory.find? key = some object := by
  have there {object : Value} (looked : memory.lookUp apiVersion kind name scope = some object) :
      comparable apiVersion kind name scope = true ∧ memory.find? key = some object := by
    obtain ⟨⟨path, _⟩, member, rfl⟩ := List.mem_map.mp (List.mem_of_find?_eq_some looked)
    have equal := List.find?_some looked
    rw [sound.isOf_of_mem member atKey, Bool.and_eq_true] at equal
    exact ⟨equal.2, (Content.find?_eq_some_iff sound.apart).mpr ⟨path, member, equal.1⟩⟩
  refine ⟨there, fun ⟨proper, found⟩ => ?_⟩
  -- There is something to look up, and that is what stands under the key.
  obtain ⟨path, member, same⟩ := (Content.find?_eq_some_iff sound.apart).mp found
  have isSome : (memory.lookUp apiVersion kind name scope).isSome := by
    refine List.find?_isSome.mpr ⟨object, List.mem_map.mpr ⟨_, member, rfl⟩, ?_⟩
    rw [sound.isOf_of_mem member atKey, same, proper, Bool.true_and]
  obtain ⟨looked, success⟩ := Option.isSome_iff_exists.mp isSome
  rw [success, ← (there success).2, found]

/-- After a successful write a read of the identity that was written finds what was replied, and
every other read finds what it would have found before. -/
theorem get_of_written {r : Request} {definition : Value}
    (write : r = .create definition ∨ r = .update definition)
    (reply : (memory.answer issuer r).reply = .ok stored) :
    ∃ own, ObjectKey.ofManifest definition = .ok own ∧ ∀ apiVersion kind name scope,
      (∀ key, ObjectKey.of scope kind apiVersion name = .ok key → own.same key = true →
        (memory.answer issuer r).state.get apiVersion kind name scope = .ok stored) ∧
      ((∀ key, ObjectKey.of scope kind apiVersion name = .ok key → own.same key = false) →
        (memory.answer issuer r).state.get apiVersion kind name scope =
          memory.get apiVersion kind name scope) := by
  obtain ⟨reads | ⟨fault, failed⟩, _⟩ | ⟨given, own, writes, writable, atOwn, replied, state⟩ :=
    answer_cases issuer memory r
  · obtain rfl | rfl := write <;> contradiction
  · simp [failed] at reply
  · have same : given = definition := by
      obtain rfl | rfl := write <;> obtain ⟨same, _⟩ | ⟨same, _⟩ := writes <;> cases same <;> rfl
    obtain rfl := same
    obtain rfl := Except.ok.inj (replied.symm.trans reply)
    refine ⟨own, writable.ofManifest_eq.trans atOwn, fun apiVersion kind name scope => ⟨?_, ?_⟩⟩
    · intro key atKey same
      rw [get_eq_ok_iff atKey, state, find?_written, if_pos same]
    · intro other
      apply get_congr
      intro key atKey
      rw [state, find?_written, if_neg (by simp [other key atKey])]

/-- In every store that is reached from its first objects,

* what is listed stands under its own identity, up to the equality of values,
* no two objects have the same identity,
* a look-up by an identity made of values that hold no others finds exactly what a read finds, unless
  one of them is a NaN, where it finds nothing, and
* a successful write shows in the reads of its own identity and in no others. -/
theorem reads_as_listed (reachable : memory.Reachable issuer) :
    (∀ path object, (path, object) ∈ memory.content.entries →
        ∃ own, ObjectKey.ofManifest object = .ok own ∧ own.same path = true) ∧
      (memory.objects.Pairwise fun one other => ∀ own own', ObjectKey.ofManifest one = .ok own →
        ObjectKey.ofManifest other = .ok own' → own.same own' = false) ∧
      (∀ apiVersion kind name scope : Value, apiVersion.isKey = true → kind.isKey = true →
        name.isKey = true → (scope.isKey = true ∨ scope.truthy = false) →
          (∀ object, memory.lookUp apiVersion kind name scope = some object ↔
            comparable apiVersion kind name scope = true ∧
              memory.get apiVersion kind name scope = .ok object) ∧
          memory.has apiVersion kind name scope = (comparable apiVersion kind name scope &&
            (memory.get apiVersion kind name scope).isOk)) ∧
      ∀ r definition stored, (r = .create definition ∨ r = .update definition) →
        (memory.answer issuer r).reply = .ok stored →
          ∃ own, ObjectKey.ofManifest definition = .ok own ∧ ∀ apiVersion kind name scope,
            (∀ key, ObjectKey.of scope kind apiVersion name = .ok key → own.same key = true →
              (memory.answer issuer r).state.get apiVersion kind name scope = .ok stored) ∧
            ((∀ key, ObjectKey.of scope kind apiVersion name = .ok key → own.same key = false) →
              (memory.answer issuer r).state.get apiVersion kind name scope =
                memory.get apiVersion kind name scope) := by
  have sound := reachable.sound
  refine ⟨fun _ _ => sound.filed, sound.pairwise_keys, ?_, fun _ _ _ => get_of_written⟩
  intro apiVersion kind name scope atVersion atKind atName atScope
  have atKey := ObjectKey.of_eq_ok atScope atKind atVersion atName
  have alike (object : Value) : memory.lookUp apiVersion kind name scope = some object ↔
      comparable apiVersion kind name scope = true ∧
        memory.get apiVersion kind name scope = .ok object := by
    rw [sound.lookUp_eq_some_iff atKey, get_eq_ok_iff atKey]
  refine ⟨alike, ?_⟩
  rw [has, Bool.eq_iff_iff, Option.isSome_iff_exists]
  simp only [alike]
  cases memory.get apiVersion kind name scope <;> simp [Except.isOk, Except.toBool]

def configMap (apiVersion name scope : Value) : Value :=
  .object [("apiVersion", apiVersion), ("kind", .text "ConfigMap"),
    ("metadata", .object [("name", name), ("namespace", scope)])]

/-- An object is filed under the API version 1 and no namespace. A definition of the API version
true replaces it, and a read and a look-up by 1 find what the update has replied. -/
theorem reads_as_listed_versioned : ∃ (memory : Memory) (stored : Value) (update : Request),
    update = .update (configMap (.bool true) (.text "a") (.list [])) ∧
    memory.Reachable numerals ∧ (memory.answer numerals update).reply = .ok stored ∧
    (memory.answer numerals update).state.get
      (.int 1) (.text "ConfigMap") (.text "a") (.text "") = .ok stored ∧
    (memory.answer numerals update).state.lookUp
      (.int 1) (.text "ConfigMap") (.text "a") (.text "") = some stored := by
  obtain ⟨memory, start, stored, reply⟩ : ∃ memory,
      ofResources numerals true [configMap (.int 1) (.text "a") (.text "")] = .ok memory ∧
      ∃ stored, (memory.answer numerals
        (.update (configMap (.bool true) (.text "a") (.list [])))).reply = .ok stored :=
    ⟨_, rfl, _, rfl⟩
  have reachable : memory.Reachable numerals := .start start
  obtain ⟨_, _, _, shows⟩ := reads_as_listed reachable
  obtain ⟨own, atOwn, reads⟩ := shows _ _ _ (.inr rfl) reply
  obtain rfl := Except.ok.inj (atOwn.symm.trans rfl)
  have found := (reads (.int 1) (.text "ConfigMap") (.text "a") (.text "")).1 _ rfl rfl
  obtain ⟨_, _, alike, _⟩ := reads_as_listed
    (reachable.answer (.update (configMap (.bool true) (.text "a") (.list []))))
  exact ⟨memory, stored, _, rfl, reachable, reply, found,
    ((alike _ _ _ _ rfl rfl rfl (.inl rfl)).1 stored).mpr ⟨rfl, found⟩⟩

/-- Not every look-up finds what a read finds: an object whose name is a NaN can be read, but not be
looked up. -/
theorem not_found_alike : ¬ ∀ (issuer : Issuer) (memory : Memory), memory.Reachable issuer →
    ∀ apiVersion kind name scope : Value, apiVersion.isKey = true → kind.isKey = true →
      name.isKey = true → (scope.isKey = true ∨ scope.truthy = false) → ∀ object,
        memory.lookUp apiVersion kind name scope = some object ↔
          memory.get apiVersion kind name scope = .ok object := by
  intro alike
  obtain ⟨memory, object, start, found, missed⟩ : ∃ memory object,
      ofResources numerals true [configMap (.text "v1") (.float .nan) .null] = .ok memory ∧
      memory.get (.text "v1") (.text "ConfigMap") (.float .nan) .null = .ok object ∧
      memory.lookUp (.text "v1") (.text "ConfigMap") (.float .nan) .null = none :=
    ⟨_, _, rfl, rfl, rfl⟩
  have looked := (alike numerals memory (.start start) _ _ _ _ rfl rfl rfl (.inl rfl) object).mpr
    found
  simp [missed] at looked

end Memory

end ManifestOwnership.Store
