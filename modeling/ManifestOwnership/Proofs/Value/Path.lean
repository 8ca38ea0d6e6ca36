import ManifestOwnership.Proofs.Value.InPlace

/-! # Places inside an object

Reading and writing at a path take the same walk. So what was written at a place is read below it,
and a place can be written exactly if it can be read. `Fields.Open` says that the walk is free: each
level on the way is absent, null or an object. With a single level on the way, reading and writing
there are accesses to one object, the `part` of the value at that level.
-/

namespace ManifestOwnership

namespace Fields

variable {trail trail' : List String} {last name : String} {new : Value} {content : Fields}

/-- What was written below some fields is read there. -/
theorem readBelow_writeBelow {fields written : Fields} {parents : List String}
    (success : writeBelow trail last (.object content) fields parents = .ok written) :
    readBelow trail' name written (parents ++ [last]) = .ok (get? content name) := by
  induction parents generalizing trail trail' fields written with
  | nil =>
    obtain rfl := Except.ok.inj success
    simp [readBelow]
  | cons part rest ih =>
    obtain ⟨inner, deeper, _, below, rfl⟩ := writeBelow_cons_eq_ok_iff.mp success
    rw [List.cons_append, readBelow_cons, get?_set_self]
    exact ih below

/-- Each level of a path is absent, null or an object, as far as there are levels above it. -/
def Open (fields : Fields) : List String → Prop
  | [] => True
  | part :: rest =>
    match get fields part with
    | .null => True
    | .object inner => Open inner rest
    | _ => False

@[simp] theorem open_nil (fields : Fields) : fields.Open [] := trivial

theorem open_cons_iff {fields : Fields} {part : String} {rest : List String} :
    fields.Open (part :: rest) ↔ get fields part = .null ∨
      ∃ inner, get fields part = .object inner ∧ Open inner rest := by
  rw [Open]
  cases get fields part <;> simp

/-- A level that holds an object is open. -/
theorem open_of_get {fields inner : Fields} {part : String}
    (found : get fields part = .object inner) : fields.Open [part] :=
  open_cons_iff.mpr (.inr ⟨inner, found, trivial⟩)

/-- Where there are no fields, every path is open. -/
theorem open_empty (parts : List String) : Open [] parts := by
  cases parts with
  | nil => trivial
  | cons part rest => exact open_cons_iff.mpr (.inl rfl)

/-- A path is open if there is a level at its first part and the rest is open below it. -/
theorem open_cons_iff_level {fields : Fields} {part : String} {rest : List String} :
    fields.Open (part :: rest) ↔
      ∃ inner, level? (get? fields part) = some inner ∧ Open inner rest := by
  rw [Open, get]
  cases get? fields part with
  | none => simp [open_empty]
  | some value => cases value <;> simp [level?, open_empty]

/-- The first part of an open path is open. -/
theorem Open.of_append {fields : Fields} {front : List String} (back : List String)
    (free : fields.Open (front ++ back)) : fields.Open front := by
  induction front generalizing fields with
  | nil => trivial
  | cons part rest ih =>
    obtain ⟨inner, level, below⟩ := open_cons_iff_level.mp free
    exact open_cons_iff_level.mpr ⟨inner, level, ih below⟩

/-- A place that an open path leads to can be read. -/
theorem Open.exists_readBelow {fields : Fields} {parents : List String}
    (free : fields.Open parents) (trail : List String) (last : String) :
    ∃ found, readBelow trail last fields parents = .ok found := by
  induction parents generalizing trail fields with
  | nil => exact ⟨_, rfl⟩
  | cons part rest ih =>
    obtain ⟨inner, level, below⟩ := open_cons_iff_level.mp free
    rw [readBelow_cons, level]
    exact ih below _

/-- A place is read only on an open path. -/
theorem open_of_readBelow {fields : Fields} {parents : List String} {found : Option Value}
    (success : readBelow trail last fields parents = .ok found) : fields.Open parents := by
  induction parents generalizing trail fields with
  | nil => trivial
  | cons part rest ih =>
    rw [readBelow_cons] at success
    cases level : level? (get? fields part) with
    | none => simp [level] at success
    | some inner =>
      rw [level] at success
      exact open_cons_iff_level.mpr ⟨inner, level, ih success⟩

/-- What is read on an open path is null or open itself. -/
theorem Open.of_readBelow {fields : Fields} {parents rest : List String} {found : Option Value}
    (free : fields.Open (parents ++ last :: rest))
    (success : readBelow trail last fields parents = .ok found) :
    found.getD .null = .null ∨ ∃ inner, found.getD .null = .object inner ∧ Open inner rest := by
  induction parents generalizing trail fields with
  | nil =>
    obtain rfl := Except.ok.inj success
    exact open_cons_iff.mp free
  | cons part others ih =>
    obtain ⟨inner, level, below⟩ := open_cons_iff_level.mp free
    rw [readBelow_cons, level] at success
    exact ih below success

/-- A place that can be read can be written. -/
theorem exists_writeBelow (new : Value) {fields : Fields} {parents : List String}
    {found : Option Value} (success : readBelow trail last fields parents = .ok found) :
    ∃ written, writeBelow trail last new fields parents = .ok written := by
  cases outcome : writeBelow trail last new fields parents with
  | ok written => exact ⟨written, rfl⟩
  | error fault =>
    rw [writeBelow_eq_error_iff, success] at outcome
    contradiction

end Fields

def Path.child (path : Path) (name : String) : Path :=
  ⟨path.parts, name⟩

namespace Value

variable {value changed new : Value} {path : Path} {name : String}

/-- A value is an object with an open path. -/
def Open (value : Value) (parts : List String) : Prop :=
  ∃ fields, value = object fields ∧ Fields.Open fields parts

@[simp] theorem open_object_iff {fields : Fields} {parts : List String} :
    (object fields).Open parts ↔ fields.Open parts := by
  simp [Open]

/-- A place that an open path leads to can be read. -/
theorem Open.exists_atOr (free : value.Open path.parents) (fallback : Value) :
    ∃ found, value.atOr path fallback = .ok found := by
  obtain ⟨fields, rfl, free⟩ := free
  obtain ⟨found, read⟩ := free.exists_readBelow [] path.last
  exact ⟨_, map_eq_ok_iff.mpr ⟨found, read, rfl⟩⟩

/-- A place is read only on an open path. -/
theorem open_of_at? {found : Option Value} (success : value.at? path = .ok found) :
    value.Open path.parents := by
  cases value with
  | object fields => exact open_object_iff.mpr (Fields.open_of_readBelow success)
  | _ => contradiction

/-- What is read on an open path is null or open itself. -/
theorem Open.of_atOr {found : Value} {rest : List String}
    (free : value.Open (path.parents ++ path.last :: rest))
    (success : value.atOr path .null = .ok found) : found = .null ∨ found.Open rest := by
  obtain ⟨fields, rfl, free⟩ := free
  obtain ⟨present, read, rfl⟩ := map_eq_ok_iff.mp success
  exact free.of_readBelow read

/-- The fields of the object below a name, none if there is no such object. -/
def part (value : Value) (name : String) : Fields :=
  match value.get? name with
  | some (.object fields) => fields
  | _ => []

/-- A level that is absent, null or an object is one of the three. -/
theorem Open.get?_cases {value : Value} {name : String} (free : value.Open [name]) :
    ∃ fields, value = object fields ∧ (Fields.get? fields name = none ∧ value.part name = [] ∨
      Fields.get? fields name = some .null ∧ value.part name = [] ∨
      Fields.get? fields name = some (.object (value.part name))) := by
  obtain ⟨fields, rfl, free⟩ := free
  refine ⟨fields, rfl, ?_⟩
  rw [part, get?_object]
  obtain absent | ⟨inner, found, _⟩ := Fields.open_cons_iff.mp free
  · rw [Fields.get] at absent
    cases present : Fields.get? fields name with
    | none => exact .inl ⟨rfl, rfl⟩
    | some value =>
      obtain rfl : value = .null := by simpa [present] using absent
      exact .inr (.inl ⟨rfl, rfl⟩)
  · rw [Fields.get] at found
    cases present : Fields.get? fields name with
    | none => simp [present] at found
    | some value =>
      obtain rfl : value = .object inner := by simpa [present] using found
      exact .inr (.inr rfl)

/-- The object below a name is read as such, with no fields if it is absent or null. -/
theorem Open.fieldOrEmpty_eq {value : Value} {name : String} (free : value.Open [name]) :
    value.fieldOrEmpty name = .ok (.object (value.part name)) := by
  obtain ⟨fields, rfl, ⟨found, none⟩ | ⟨found, none⟩ | found⟩ := free.get?_cases
  · simp [Fields.get, found, none, orElse, truthy]
  · simp [Fields.get, found, none, orElse, truthy]
  · simp [Fields.get, found]

/-- What is read below a name is null if there is no object there. -/
theorem Open.atOr_eq {value : Value} {name : String} (free : value.Open [name]) (last : String) :
    value.atOr ⟨[name], last⟩ .null = .ok (Fields.get (value.part name) last) := by
  obtain ⟨fields, rfl, ⟨found, none⟩ | ⟨found, none⟩ | found⟩ := free.get?_cases
  · simp [atOr, at?, Fields.readBelow, found, none, Except.map, Fields.get]
  · simp [atOr, at?, Fields.readBelow, found, none, Except.map, Fields.get]
  · simp [atOr, at?, Fields.readBelow, found, Except.map, Fields.get]

/-- What is written below a name goes to the object there, which is made if it is not there. -/
theorem Open.setAt_eq {value : Value} {name : String} (free : value.Open [name]) (last : String)
    (new : Value) : value.setAt ⟨[name], last⟩ new =
      value.setField name (.object (Fields.set (value.part name) last new)) := by
  obtain ⟨fields, rfl, ⟨found, none⟩ | ⟨found, none⟩ | found⟩ := free.get?_cases
  · simp [setField, Fields.writeBelow, found, none, Except.map]
  · simp [setField, Fields.writeBelow, found, none, Except.map]
  · simp [setField, Fields.writeBelow, found, Except.map]

/-- The fields of an object that was written at a place are read there. -/
theorem at?_child_of_setAt {content : Fields}
    (success : value.setAt path (.object content) = .ok changed) :
    changed.at? (path.child name) = .ok (Fields.get? content name) := by
  obtain ⟨fields, written, rfl, below, rfl⟩ := setAt_eq_ok_iff.mp success
  exact Fields.readBelow_writeBelow below

/-- A place that can be read can be written. -/
theorem exists_setAt (new : Value) {found : Option Value} (success : value.at? path = .ok found) :
    ∃ changed, value.setAt path new = .ok changed := by
  cases value with
  | object fields =>
    obtain ⟨written, success⟩ := Fields.exists_writeBelow new success
    exact ⟨.object written, setAt_eq_ok_iff.mpr ⟨fields, written, rfl, success, rfl⟩⟩
  | _ => contradiction

/-- Whether a path is open depends on its first field alone. -/
theorem open_congr {fields fields' : Fields} {part : String} {rest : List String}
    (same : Fields.get? fields part = Fields.get? fields' part) :
    (object fields).Open (part :: rest) ↔ (object fields').Open (part :: rest) := by
  simp only [open_object_iff, Fields.open_cons_iff, Fields.get, same]

/-- What is read at a place depends on the first field on the way alone. -/
theorem at?_congr {fields fields' : Fields} {part last : String} {rest : List String}
    (same : Fields.get? fields part = Fields.get? fields' part) :
    (object fields).at? ⟨part :: rest, last⟩ = (object fields').at? ⟨part :: rest, last⟩ := by
  simp only [at?, Fields.readBelow, same]

end Value

end ManifestOwnership
