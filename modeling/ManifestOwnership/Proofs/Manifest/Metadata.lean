import ManifestOwnership.Store.Memory
import ManifestOwnership.Proofs.Success

/-! # A manifest as fields and metadata

A manifest that a store holds is an object whose metadata is an object. Such a manifest is seen
through its fields and the fields of its metadata, and changed by giving it other metadata. The
order of fields is no part of this view: `Manifest.Agree` compares two manifests name by name, and
leaves given fields of the metadata aside.
-/

namespace ManifestOwnership

namespace Fields

@[simp] theorem get_set_self (fields : Fields) (name : String) (new : Value) :
    get (set fields name new) name = new := by
  simp [get]

theorem get_set_of_ne (fields : Fields) {name other : String} (new : Value)
    (distinct : other ≠ name) : get (set fields name new) other = get fields other := by
  rw [get, get?_set_of_ne fields new distinct, get]

/-- A field that counts as given is there. -/
theorem get?_of_truthy {fields : Fields} {name : String}
    (given : (get fields name).truthy = true) : get? fields name = some (get fields name) := by
  rw [get] at given ⊢
  cases found : get? fields name with
  | none => simp [found, Value.truthy] at given
  | some value => rfl

end Fields

namespace Value

def get? (value : Value) (name : String) : Option Value :=
  match value with
  | object fields => Fields.get? fields name
  | _ => none

/-- The fields of a manifest's metadata, none if that is no object. -/
def metadata (definition : Value) : Fields :=
  match definition.get? "metadata" with
  | some (.object fields) => fields
  | _ => []

def withMetadata (definition : Value) (fields : Fields) : Value :=
  match definition with
  | .object content => .object (Fields.set content "metadata" (.object fields))
  | value => value

@[simp] theorem get?_object (fields : Fields) (name : String) :
    (object fields).get? name = Fields.get? fields name := rfl

@[simp] theorem fields_eq_ok_iff {value : Value} {fields : Fields} :
    value.fields = .ok fields ↔ value = object fields := by
  cases value <;> simp [Value.fields]

@[simp] theorem field_eq_ok_iff {value found : Value} {name : String} :
    value.field name = .ok found ↔
      ∃ fields, value = object fields ∧ Fields.get fields name = found := by
  simp [field]

/-- A field is not read only from what is no object. -/
theorem field_eq_error_iff {value : Value} {name : String} {fault : Fault} :
    value.field name = .error fault ↔ value.isObject = false ∧ fault = .lacksOperation := by
  cases value <;> simp [field, Value.fields, isObject, Except.map, eq_comm]

@[simp] theorem setField_eq_ok_iff {value new changed : Value} {name : String} :
    value.setField name new = .ok changed ↔
      ∃ fields, value = object fields ∧ object (Fields.set fields name new) = changed := by
  cases value <;> simp [setField]

@[simp] theorem fieldOrEmpty_eq_ok_iff {value found : Value} {name : String} :
    value.fieldOrEmpty name = .ok found ↔
      ∃ fields, value = object fields ∧ (Fields.get fields name).orElse (object []) = found := by
  simp [fieldOrEmpty]

/-- What is named by a value and is not null is a field of an object that a text names. -/
theorem fieldNamed_eq_ok_iff {value name found : Value} (given : found ≠ null) :
    value.fieldNamed name = .ok found ↔
      ∃ s fields, name = text s ∧ value = object fields ∧ Fields.get? fields s = some found := by
  constructor
  · intro named
    unfold fieldNamed at named
    split at named
    · next fields s =>
      obtain rfl := Except.ok.inj named
      rw [Fields.get] at given ⊢
      cases present : Fields.get? fields s with
      | none => simp [present] at given
      | some value => exact ⟨s, fields, rfl, rfl, present⟩
    · obtain ⟨_, _, rfl⟩ := map_eq_ok_iff.mp named
      contradiction
    · contradiction
  · rintro ⟨s, fields, rfl, rfl, present⟩
    simp [fieldNamed, Fields.get, present]

/-- What is taken is the value, if it counts as given, or else what stands in for it. -/
theorem orElse_eq_iff {value fallback taken : Value} : value.orElse fallback = taken ↔
    value.truthy = true ∧ value = taken ∨ value.truthy = false ∧ fallback = taken := by
  cases given : value.truthy <;> simp [orElse, given]

/-- An object without fields is as good as none. -/
@[simp] theorem orElse_object (fields : Fields) :
    (object fields).orElse (object []) = object fields := by
  cases fields <;> simp [orElse, truthy]

@[simp] theorem orElse_orElse (value fallback : Value) :
    (value.orElse fallback).orElse fallback = value.orElse fallback := by
  unfold orElse
  split_ifs <;> rfl

end Value

namespace Manifest

/-- A manifest is an object, and so is its metadata if it has any. -/
def Writable (definition : Value) : Prop :=
  ∃ content, definition = .object content ∧ (Fields.get? content "metadata" = none ∨
    ∃ fields, Fields.get? content "metadata" = some (.object fields))

/-- A manifest is an object whose metadata is an object. -/
def Formed (definition : Value) : Prop :=
  ∃ content fields, definition = .object content ∧
    Fields.get? content "metadata" = some (.object fields)

variable {definition : Value} {fields : Fields}

theorem Formed.writable (formed : Formed definition) : Writable definition := by
  obtain ⟨content, fields, same, found⟩ := formed
  exact ⟨content, same, .inr ⟨fields, found⟩⟩

theorem Formed.eq_object (formed : Formed definition) :
    ∃ content, definition = .object content ∧
      Fields.get? content "metadata" = some (.object definition.metadata) := by
  obtain ⟨content, fields, rfl, found⟩ := formed
  exact ⟨content, rfl, by simp [Value.metadata, found]⟩

theorem Formed.ne_null (formed : Formed definition) : definition.isNull = false := by
  obtain ⟨content, fields, rfl, _⟩ := formed
  rfl

theorem Writable.formed_withMetadata (writable : Writable definition) (fields : Fields) :
    Formed (definition.withMetadata fields) := by
  obtain ⟨content, rfl, _⟩ := writable
  exact ⟨_, fields, rfl, by simp⟩

theorem Formed.withMetadata (formed : Formed definition) (fields : Fields) :
    Formed (definition.withMetadata fields) :=
  formed.writable.formed_withMetadata fields

theorem Writable.metadata_withMetadata (writable : Writable definition) (fields : Fields) :
    (definition.withMetadata fields).metadata = fields := by
  obtain ⟨content, rfl, _⟩ := writable
  simp [Value.metadata, Value.withMetadata]

theorem Formed.metadata_withMetadata (formed : Formed definition) (fields : Fields) :
    (definition.withMetadata fields).metadata = fields :=
  formed.writable.metadata_withMetadata fields

/-- Other metadata leaves the fields of the manifest itself. -/
theorem get?_withMetadata_of_ne (definition : Value) (fields : Fields) {name : String}
    (distinct : name ≠ "metadata") :
    (definition.withMetadata fields).get? name = definition.get? name := by
  cases definition with
  | object content => exact Fields.get?_set_of_ne content _ distinct
  | _ => rfl

/-- A formed manifest is the one with its own metadata, up to the order of fields. -/
theorem Formed.get?_metadata (formed : Formed definition) :
    definition.get? "metadata" = some (.object definition.metadata) := by
  obtain ⟨content, rfl, found⟩ := formed.eq_object
  exact found

theorem Formed.field_metadata (formed : Formed definition) :
    definition.field "metadata" = .ok (.object definition.metadata) := by
  obtain ⟨content, rfl, found⟩ := formed.eq_object
  simp [Fields.get, found]

theorem Formed.fieldOrEmpty_metadata (formed : Formed definition) :
    definition.fieldOrEmpty "metadata" = .ok (.object definition.metadata) := by
  simp [Value.fieldOrEmpty, formed.field_metadata, Except.map]

theorem Formed.setField_metadata (formed : Formed definition) (fields : Fields) :
    definition.setField "metadata" (.object fields) = .ok (definition.withMetadata fields) := by
  obtain ⟨content, rfl, _⟩ := formed.eq_object
  rfl

theorem formed_iff_get? : Formed definition ↔
    ∃ fields, definition.get? "metadata" = some (.object fields) := by
  constructor
  · intro formed
    exact ⟨_, formed.get?_metadata⟩
  · rintro ⟨fields, found⟩
    cases definition with
    | object content => exact ⟨content, fields, rfl, found⟩
    | _ => contradiction

/-- A manifest is formed exactly if its metadata is read as an object. -/
theorem formed_iff_field : Formed definition ↔
    ∃ fields, definition.field "metadata" = .ok (.object fields) := by
  constructor
  · intro formed
    exact ⟨_, formed.field_metadata⟩
  · rintro ⟨fields, read⟩
    obtain ⟨content, rfl, found⟩ := Value.field_eq_ok_iff.mp read
    refine ⟨content, fields, rfl, ?_⟩
    rw [Fields.get] at found
    cases present : Fields.get? content "metadata" <;> simp_all

/-- Two manifests agree if they have the same fields, in whatever order, and so does their
metadata, where the fields of some names are left aside. -/
structure Agree (aside : List String) (first second : Value) : Prop where
  left : Formed first
  right : Formed second
  content : ∀ name, name ≠ "metadata" → first.get? name = second.get? name
  metadata : ∀ name, name ∉ aside →
    Fields.get? first.metadata name = Fields.get? second.metadata name

namespace Agree

variable {aside more : List String} {first second third : Value}

theorem refl (formed : Formed definition) : Agree aside definition definition :=
  ⟨formed, formed, fun _ _ => rfl, fun _ _ => rfl⟩

theorem symm (agree : Agree aside first second) : Agree aside second first :=
  ⟨agree.right, agree.left, fun name other => (agree.content name other).symm,
    fun name kept => (agree.metadata name kept).symm⟩

theorem trans (agree : Agree aside first second) (agree' : Agree aside second third) :
    Agree aside first third :=
  ⟨agree.left, agree'.right,
    fun name other => (agree.content name other).trans (agree'.content name other),
    fun name kept => (agree.metadata name kept).trans (agree'.metadata name kept)⟩

theorem mono (agree : Agree aside first second) (subset : aside ⊆ more) :
    Agree more first second :=
  ⟨agree.left, agree.right, agree.content,
    fun name kept => agree.metadata name fun member => kept (subset member)⟩

/-- Manifests that agree on some of the fields left aside need not leave those aside. -/
theorem narrow {fewer : List String} (agree : Agree aside first second)
    (same : ∀ name ∈ aside, name ∉ fewer →
      Fields.get? first.metadata name = Fields.get? second.metadata name) :
    Agree fewer first second where
  left := agree.left
  right := agree.right
  content := agree.content
  metadata name kept := by
    by_cases member : name ∈ aside
    · exact same name member kept
    · exact agree.metadata name member

/-- What is not left aside is read alike. -/
theorem get (agree : Agree aside first second) {name : String} (kept : name ∉ aside) :
    Fields.get first.metadata name = Fields.get second.metadata name := by
  rw [Fields.get, Fields.get, agree.metadata name kept]

/-- The fields of the manifests themselves are read alike. -/
theorem fieldOrEmpty_eq (agree : Agree aside first second) {name : String}
    (other : name ≠ "metadata") : first.fieldOrEmpty name = second.fieldOrEmpty name := by
  have same := agree.content name other
  obtain ⟨content, rfl, _⟩ := agree.left.eq_object
  obtain ⟨content', rfl, _⟩ := agree.right.eq_object
  rw [Value.get?_object, Value.get?_object] at same
  have read : Fields.get content name = Fields.get content' name := by
    rw [Fields.get, Fields.get, same]
  simp only [Value.fieldOrEmpty, Value.field, Value.fields, Except.map, read]

end Agree

/-- A manifest with one field of its metadata set agrees with it but for that field. -/
theorem Formed.agree_set (formed : Formed definition) (name : String) (value : Value) :
    Agree [name] (definition.withMetadata (Fields.set definition.metadata name value))
      definition where
  left := formed.withMetadata _
  right := formed
  content other distinct := get?_withMetadata_of_ne _ _ distinct
  metadata other kept := by
    rw [formed.metadata_withMetadata, Fields.get?_set_of_ne]
    simpa using kept

end Manifest

end ManifestOwnership
