import ManifestOwnership.Value.Path
import ManifestOwnership.Proofs.Manifest.Metadata

/-! # Writing in place

A write at a path makes a level that is absent or null and enters it before it can tell whether the
next one is in the way. `Fields.writeBelow` is the same write without these steps: it results in new
fields or in a fault, and leaves nothing half done. The two agree. A level that was made has no
fields, so nothing below it is in the way: a write that fails has made no level, and one that has
made a level cannot fail any more.
-/

namespace ManifestOwnership

namespace Fields

variable {trail : List String} {last part : String} {new : Value} {fields written inner : Fields}
  {parents : List String} {fault : Fault}

/-- Writes below the fields reached by `trail`, creating the levels that are absent. -/
def writeBelow (trail : List String) (last : String) (new : Value) :
    Fields → List String → Except Fault Fields
  | fields, [] => .ok (set fields last new)
  | fields, part :: rest =>
    let inside (inner : Fields) : Except Fault Fields :=
      (writeBelow (trail ++ [part]) last new inner rest).map fun written =>
        set fields part (.object written)
    match get? fields part with
    | none => inside []
    | some .null => inside []
    | some (.object inner) => inside inner
    | some _ => .error (.brokenPath (trail ++ [part]))

/-- The fields at a level of a path: those of an object, and none if nothing is there or null. -/
def level? : Option Value → Option Fields
  | none => some []
  | some .null => some []
  | some (.object fields) => some fields
  | some _ => none

@[simp] theorem level?_none : level? none = some [] := rfl

@[simp] theorem level?_object (fields : Fields) : level? (some (.object fields)) = some fields :=
  rfl

/-- A level is an object, or nothing is there and it has no fields. -/
theorem level?_eq_some_iff {found : Option Value} : level? found = some inner ↔
    found = some (.object inner) ∨ found.getD .null = .null ∧ inner = [] := by
  rcases found with _ | value
  · simp [eq_comm]
  · cases value <;> simp [level?, eq_comm]

/-- Nothing is read below a level without fields. -/
theorem readBelow_nil (trail : List String) (last : String) (parents : List String) :
    readBelow trail last [] parents = .ok none := by
  cases parents <;> rfl

theorem readBelow_cons (trail : List String) (last part : String) (fields : Fields)
    (rest : List String) : readBelow trail last fields (part :: rest) =
      match level? (get? fields part) with
      | some inner => readBelow (trail ++ [part]) last inner rest
      | none => .error (.brokenPath (trail ++ [part])) := by
  rw [readBelow]
  split
  · next absent => simp [absent, level?, readBelow_nil]
  · next null => simp [null, level?, readBelow_nil]
  · next inner found => simp [found]
  · next value absent null found =>
    cases value <;> simp_all [level?]

/-- A level that reading finds something below, or is stopped below, is an object. -/
theorem get?_of_level {rest : List String} (level : level? (get? fields part) = some inner)
    (reached : readBelow trail last inner rest ≠ .ok none) :
    get? fields part = some (.object inner) := by
  rcases level?_eq_some_iff.mp level with found | ⟨_, rfl⟩
  · exact found
  · exact absurd (readBelow_nil trail last rest) reached

theorem writeBelow_cons (trail : List String) (last part : String) (new : Value) (fields : Fields)
    (rest : List String) : writeBelow trail last new fields (part :: rest) =
      match level? (get? fields part) with
      | some inner => (writeBelow (trail ++ [part]) last new inner rest).map fun deeper =>
          set fields part (.object deeper)
      | none => .error (.brokenPath (trail ++ [part])) := by
  rw [writeBelow]
  split
  · next absent => simp [absent, level?]
  · next null => simp [null, level?]
  · next inner found => simp [found]
  · next value absent null found =>
    cases value <;> simp_all [level?]

/-- A write below a level goes through it and changes what is below. -/
theorem writeBelow_cons_eq_ok_iff {rest : List String} :
    writeBelow trail last new fields (part :: rest) = .ok written ↔
      ∃ inner deeper, level? (get? fields part) = some inner ∧
        writeBelow (trail ++ [part]) last new inner rest = .ok deeper ∧
          set fields part (.object deeper) = written := by
  rw [writeBelow_cons]
  cases level? (get? fields part) <;> simp

/-- Writing fails where reading does, and with the same fault. -/
theorem writeBelow_eq_error_iff : writeBelow trail last new fields parents = .error fault ↔
    readBelow trail last fields parents = .error fault := by
  induction parents generalizing trail fields with
  | nil => simp [writeBelow, readBelow]
  | cons part rest ih =>
    rw [writeBelow_cons, readBelow_cons]
    cases level? (get? fields part) with
    | none => simp
    | some inner => exact map_eq_error_iff.trans ih

/-! ## One level -/

/-- A level that is an object is entered, and so is one that is made where nothing is. -/
theorem within_of_level (level : level? (get? fields part) = some inner) (broken : Fault)
    (work : Fields → Except Fault Unit × Fields) : within part broken work fields =
      ((work inner).1, set fields part (.object (work inner).2)) := by
  rcases level?_eq_some_iff.mp level with found | ⟨absent, rfl⟩
  · have here : get fields part = .object inner := by rw [get, found, Option.getD_some]
    simp [within, here, Value.isNull]
  · have here : get fields part = .null := absent
    simp [within, here, Value.isNull]

/-- A level that is neither is in the way, and nothing is made. -/
theorem within_of_no_level (blocked : level? (get? fields part) = none) (broken : Fault)
    (work : Fields → Except Fault Unit × Fields) :
    within part broken work fields = (.error broken, fields) := by
  cases found : get? fields part with
  | none => simp [found] at blocked
  | some value =>
    have here : get fields part = value := by rw [get, found, Option.getD_some]
    cases value with
    | null => simp [found, level?] at blocked
    | object inner => simp [found] at blocked
    | _ => simp [within, here, Value.isNull]

/-! ## The whole way -/

/-- A write in place that succeeds leaves the fields that the other one makes. -/
theorem putBelow_of_ok (success : writeBelow trail last new fields parents = .ok written) :
    putBelow trail last new parents fields = (.ok (), written) := by
  induction parents generalizing trail fields written with
  | nil =>
    obtain rfl := Except.ok.inj success
    rfl
  | cons part rest ih =>
    obtain ⟨inner, deeper, level, below, rfl⟩ := writeBelow_cons_eq_ok_iff.mp success
    rw [putBelow, within_of_level level, ih below]

/-- A write in place that fails leaves the fields as they are. -/
theorem putBelow_of_error (failure : writeBelow trail last new fields parents = .error fault) :
    putBelow trail last new parents fields = (.error fault, fields) := by
  induction parents generalizing trail fields with
  | nil => simp [writeBelow] at failure
  | cons part rest ih =>
    rw [writeBelow_cons] at failure
    rw [putBelow]
    cases level : level? (get? fields part) with
    | none =>
      obtain rfl : .brokenPath (trail ++ [part]) = fault := by simpa [level] using failure
      exact within_of_no_level level _ _
    | some inner =>
      rw [level] at failure
      have below := map_eq_error_iff.mp failure
      have read := writeBelow_eq_error_iff.mp below
      -- Had this level been made for the write, nothing could have failed below it.
      have present := get?_of_level level (by rw [read]; simp)
      rw [within_of_level level, ih below, set_of_get? present]

end Fields

namespace Value

variable {value changed new after : Value} {fields written : Fields} {path : Path} {fault : Fault}

/-- A write in place that succeeds leaves the object with the new value. -/
theorem putAt_of_ok
    (success : Fields.writeBelow [] path.last new fields path.parents = .ok written) :
    (object fields).putAt path new = (.ok (), object written) := by
  rw [putAt, Fields.putBelow_of_ok success]

/-- A write in place that fails leaves the object as it was. -/
theorem putAt_of_error
    (failure : Fields.writeBelow [] path.last new fields path.parents = .error fault) :
    (object fields).putAt path new = (.error fault, object fields) := by
  rw [putAt, Fields.putBelow_of_error failure]

/-- A write in place fails exactly if reading there does, with the same fault, and then it leaves
the object as it was. -/
theorem putAt_eq_error_iff : (object fields).putAt path new = (.error fault, after) ↔
    (object fields).at? path = .error fault ∧ after = object fields := by
  have reads : (object fields).at? path = .error fault ↔
      Fields.writeBelow [] path.last new fields path.parents = .error fault :=
    Fields.writeBelow_eq_error_iff.symm
  rw [reads]
  cases outcome : Fields.writeBelow [] path.last new fields path.parents with
  | ok written =>
    rw [putAt_of_ok outcome]
    simp
  | error other =>
    rw [putAt_of_error outcome]
    simp [eq_comm]

/-- A value is set at a place of an object by writing below its fields. -/
@[simp] theorem setAt_object (fields : Fields) (path : Path) (new : Value) :
    (object fields).setAt path new =
      (Fields.writeBelow [] path.last new fields path.parents).map object := by
  cases written : Fields.writeBelow [] path.last new fields path.parents with
  | ok after => rw [setAt, putAt_of_ok written]; rfl
  | error fault => rw [setAt, putAt_of_error written]; rfl

theorem setAt_eq_ok_iff : value.setAt path new = .ok changed ↔
    ∃ fields written, value = .object fields ∧
      Fields.writeBelow [] path.last new fields path.parents = .ok written ∧
        .object written = changed := by
  cases value with
  | object fields => simp
  | _ => simp [setAt, putAt, Except.map]

end Value

end ManifestOwnership
