import ManifestOwnership.Proofs.Value.Path

/-! # Writing at a place

What a write at a path does to an object, by what is read afterwards: the new value at the path, and
at every path that neither leads through this one nor is led through by it what was read before,
faults included. A second write at the path leaves no trace of the first one. `Altered` is the same
seen from outside, level by level: nothing differs but the levels on the way, and where such a level
is absent or null, an object without fields is as good.
-/

namespace ManifestOwnership

namespace Fields

variable {trail trail' : List String} {last last' part : String} {new first second : Value}
  {fields written : Fields} {parents parents' : List String}

/-- What is written at a place is read there. -/
theorem readBelow_self (success : writeBelow trail last new fields parents = .ok written) :
    readBelow trail' last written parents = .ok (some new) := by
  induction parents generalizing trail trail' fields written with
  | nil =>
    obtain rfl := Except.ok.inj success
    rw [readBelow, get?_set_self]
  | cons part rest ih =>
    obtain ⟨inner, deeper, _, below, rfl⟩ := writeBelow_cons_eq_ok_iff.mp success
    rw [readBelow_cons, get?_set_self]
    exact ih below

/-- What is written last at a place stays. -/
theorem writeBelow_writeBelow (success : writeBelow trail last first fields parents = .ok written) :
    writeBelow trail last second written parents = writeBelow trail last second fields parents := by
  induction parents generalizing trail fields written with
  | nil =>
    obtain rfl := Except.ok.inj success
    simp [writeBelow]
  | cons part rest ih =>
    obtain ⟨inner, deeper, found, below, rfl⟩ := writeBelow_cons_eq_ok_iff.mp success
    rw [writeBelow_cons, writeBelow_cons, get?_set_self, found]
    simp [ih below]

/-- To write what is there changes nothing. -/
theorem writeBelow_of_readBelow {value : Value}
    (read : readBelow trail last fields parents = .ok (some value)) :
    writeBelow trail' last value fields parents = .ok fields := by
  induction parents generalizing trail trail' fields with
  | nil => rw [writeBelow, set_of_get? (Except.ok.inj read)]
  | cons part rest ih =>
    rw [readBelow_cons] at read
    cases level : level? (get? fields part) with
    | none => simp [level] at read
    | some inner =>
      have below : readBelow (trail ++ [part]) last inner rest = .ok (some value) := by
        simpa only [level] using read
      have found := get?_of_level level (by rw [below]; simp)
      rw [writeBelow_cons, level]
      simp [ih below, Except.map, set_of_get? found]

/-- A write leaves what is read at a place beside it, faults included. -/
theorem readBelow_of_apart (success : writeBelow trail last new fields parents = .ok written)
    (apart : ¬ parents ++ [last] <+: parents' ++ [last'])
    (apart' : ¬ parents' ++ [last'] <+: parents ++ [last]) :
    readBelow trail' last' written parents' = readBelow trail' last' fields parents' := by
  induction parents generalizing trail trail' fields written parents' with
  | nil =>
    obtain rfl := Except.ok.inj success
    cases parents' with
    | nil =>
      have distinct : last' ≠ last := by
        rintro rfl
        exact apart (List.prefix_refl _)
      rw [readBelow, readBelow, get?_set_of_ne _ _ distinct]
    | cons part' rest' =>
      have distinct : part' ≠ last := by
        rintro rfl
        exact apart (by simp)
      rw [readBelow_cons, readBelow_cons, get?_set_of_ne _ _ distinct]
  | cons part rest ih =>
    obtain ⟨inner, deeper, found, below, rfl⟩ := writeBelow_cons_eq_ok_iff.mp success
    cases parents' with
    | nil =>
      have distinct : last' ≠ part := by
        rintro rfl
        exact apart' (by simp)
      rw [readBelow, readBelow, get?_set_of_ne _ _ distinct]
    | cons part' rest' =>
      rw [readBelow_cons, readBelow_cons]
      by_cases same : part' = part
      · subst same
        rw [get?_set_self, found]
        refine ih below (fun front => apart ?_) fun front => apart' ?_
        · simpa using front
        · simpa using front
      · rw [get?_set_of_ne _ _ same]

end Fields

namespace Value

variable {value changed first second new : Value} {path other : Path} {found : Option Value}
  {related : Option Value → Option Value → Prop}

/-- Nothing differs between two values but what is at a place, where they are related, and a level
on the way there that is absent or null in the first one is an object in the second. -/
def Altered (related : Option Value → Option Value → Prop) :
    List String → Option Value → Option Value → Prop
  | [], before, after => related before after
  | part :: rest, before, after => ∃ fields fields', Fields.level? before = some fields ∧
      after = some (.object fields') ∧
      (∀ name, name ≠ part → Fields.get? fields' name = Fields.get? fields name) ∧
      Altered related rest (Fields.get? fields part) (Fields.get? fields' part)

/-- A field that is altered is related to what it was. -/
theorem Altered.get? {before after : Value} {part : String}
    (altered : Altered related [part] (some before) (some after)) :
    related (before.get? part) (after.get? part) := by
  obtain ⟨fields, fields', level, same, _, holds⟩ := altered
  obtain rfl := Option.some.inj same
  have found : before.get? part = Fields.get? fields part := by
    cases before with
    | null =>
      obtain rfl := Option.some.inj level
      rfl
    | object _ =>
      obtain rfl := Option.some.inj level
      rfl
    | _ => contradiction
  rwa [found]

/-- What is written at a place is read there. -/
theorem at?_setAt (success : value.setAt path new = .ok changed) :
    changed.at? path = .ok (some new) := by
  obtain ⟨fields, written, rfl, below, rfl⟩ := setAt_eq_ok_iff.mp success
  exact Fields.readBelow_self below

/-- What is written last at a place stays. -/
theorem setAt_setAt (success : value.setAt path first = .ok changed) :
    changed.setAt path second = value.setAt path second := by
  obtain ⟨fields, written, rfl, below, rfl⟩ := setAt_eq_ok_iff.mp success
  rw [setAt_object, setAt_object, Fields.writeBelow_writeBelow below]

/-- To write what is there changes nothing. -/
theorem setAt_of_at? (read : value.at? path = .ok (some new)) :
    value.setAt path new = .ok value := by
  cases value with
  | object fields => rw [setAt_object, Fields.writeBelow_of_readBelow read]; rfl
  | _ => contradiction

/-- A write leaves what is read at a place beside it, faults included. -/
theorem at?_setAt_of_apart (success : value.setAt path new = .ok changed)
    (apart : ¬ path.parts <+: other.parts) (apart' : ¬ other.parts <+: path.parts) :
    changed.at? other = value.at? other := by
  obtain ⟨fields, written, rfl, below, rfl⟩ := setAt_eq_ok_iff.mp success
  exact Fields.readBelow_of_apart below apart apart'

private theorem altered_of_writeBelow {trail trail' : List String} {last : String}
    {parents : List String} {fields written : Fields} {before : Option Value}
    (level : Fields.level? before = some fields)
    (read : Fields.readBelow trail last fields parents = .ok found)
    (success : Fields.writeBelow trail' last new fields parents = .ok written)
    (holds : related found (some new)) :
    Altered related (parents ++ [last]) before (some (.object written)) := by
  induction parents generalizing trail trail' fields written before with
  | nil =>
    obtain rfl := Except.ok.inj success
    obtain rfl := Except.ok.inj read
    refine ⟨fields, _, level, rfl, fun name other => Fields.get?_set_of_ne _ _ other, ?_⟩
    rwa [Fields.get?_set_self]
  | cons part rest ih =>
    obtain ⟨inner, deeper, reached, below, rfl⟩ := Fields.writeBelow_cons_eq_ok_iff.mp success
    rw [Fields.readBelow_cons, reached] at read
    refine ⟨fields, _, level, rfl, fun name other => Fields.get?_set_of_ne _ _ other, ?_⟩
    rw [Fields.get?_set_self]
    exact ih reached read below

/-- A write alters the place it is made at. -/
theorem altered_of_setAt (read : value.at? path = .ok found)
    (success : value.setAt path new = .ok changed) (holds : related found (some new)) :
    Altered related path.parts (some value) (some changed) := by
  obtain ⟨fields, written, rfl, below, rfl⟩ := setAt_eq_ok_iff.mp success
  exact altered_of_writeBelow (Fields.level?_object fields) read below holds

end Value

end ManifestOwnership
