import ManifestOwnership.Proofs.Value.Path

/-! # What a written path reads

Names without points are the parts of the text that joins them, so no two lists of such names have
one text. Reading at a path descends as long as there are objects: `valueAt` is what it comes to
where it does, and `Blocks` names the one place on the way that stops it with a fault.
-/

namespace ManifestOwnership

namespace Path

def Dotless (name : String) : Prop :=
  '.' ∉ name.toList

private theorem parts_split (part rest : List Char) :
    (split part rest).parts.map String.toList =
      (rest.splitOn '.').modifyHead (part.reverse ++ ·) := by
  -- The part that is being read is kept in reverse.
  induction rest generalizing part with
  | nil => simp [split, parts]
  | cons c rest ih =>
    rw [split, List.splitOn_eq_splitOnP, List.splitOnP_cons_eq_if_modifyHead,
      ← List.splitOn_eq_splitOnP]
    by_cases point : c = '.'
    · have others : (split [] rest).parts.map String.toList = rest.splitOn '.' :=
        (ih []).trans (congrFun List.modifyHead_id _)
      simpa [point, parts] using others
    · have longer := ih (c :: part)
      simp only [point, if_false, beq_iff_eq]
      rw [longer, List.modifyHead_modifyHead]
      congr 1
      funext front
      simp

/-- The parts of a text are what its points leave of it. -/
theorem parts_ofText (s : String) :
    (ofText s).parts.map String.toList = s.toList.splitOn '.' :=
  (parts_split [] s.toList).trans (congrFun List.modifyHead_id _)

/-- Names without points are read back from the text that joins them. -/
theorem parts_ofText_join {names : List String} (dotless : ∀ name ∈ names, Dotless name)
    (given : names ≠ []) : (ofText (join names)).parts = names := by
  have split : (ofText (join names)).parts.map String.toList = names.map String.toList := by
    rw [parts_ofText, join, String.toList_intercalate]
    refine List.splitOn_intercalate '.' ?_ ?_
    · simpa [Dotless] using dotless
    · simpa using given
  exact List.map_injective_iff.mpr (fun _ _ => String.toList_inj.mp) split

/-- No two lists of names without points have one text. -/
theorem join_inj {names others : List String} (dotless : ∀ name ∈ names, Dotless name)
    (dotless' : ∀ name ∈ others, Dotless name) (given : names ≠ []) (given' : others ≠ []) :
    join names = join others ↔ names = others := by
  constructor
  · intro same
    rw [← parts_ofText_join dotless given, same, parts_ofText_join dotless' given']
  · rintro rfl
    rfl

end Path

namespace Value

/-- The value that some names lead to, null where there is nothing to descend into. -/
def valueAt : Value → List String → Value
  | value, [] => value
  | object fields, name :: rest => (Fields.get fields name).valueAt rest
  | _, _ :: _ => null

/-- Some names stop at a front of theirs: what is there is neither null nor an object, and names
are left. -/
def Blocks (value : Value) (names front : List String) : Prop :=
  ∃ back, back ≠ [] ∧ names = front ++ back ∧ value.valueAt front ≠ null ∧
    (value.valueAt front).isObject = false

@[simp] theorem valueAt_nil (value : Value) : value.valueAt [] = value := by
  cases value <;> rfl

@[simp] theorem valueAt_object_cons (fields : Fields) (name : String) (rest : List String) :
    (object fields).valueAt (name :: rest) = (Fields.get fields name).valueAt rest := rfl

/-- A field that is read of an object is what its name leads to. -/
theorem valueAt_of_field {value found : Value} {name : String}
    (read : value.field name = .ok found) : value.valueAt [name] = found := by
  obtain ⟨fields, rfl, rfl⟩ := field_eq_ok_iff.mp read
  rw [valueAt_object_cons, valueAt_nil]

/-- So is a field of a level that an object without fields stands in for where it is nothing. -/
theorem valueAt_of_fieldOrEmpty {value inner found : Value} {group name : String}
    (opened : value.fieldOrEmpty group = .ok inner) (read : inner.field name = .ok found) :
    value.valueAt [group, name] = found := by
  obtain ⟨fields, rfl, taken⟩ := fieldOrEmpty_eq_ok_iff.mp opened
  rw [valueAt_object_cons]
  obtain ⟨-, rfl⟩ | ⟨nothing, rfl⟩ := orElse_eq_iff.mp taken
  · exact valueAt_of_field read
  · obtain rfl : null = found := Except.ok.inj read
    generalize Fields.get fields group = level at nothing
    cases level with
    | object fields =>
      obtain rfl : fields = [] := by simpa [truthy] using nothing
      rfl
    | _ => rfl

/-- Nothing is reached below null. -/
@[simp] theorem valueAt_null (names : List String) : null.valueAt names = null := by
  cases names <;> rfl

@[simp] theorem not_blocks_null (names front : List String) : ¬ null.Blocks names front := by
  simp [Blocks]

@[simp] theorem not_blocks_object_nil (fields : Fields) (names : List String) :
    ¬ (object fields).Blocks names [] := by
  simp [Blocks, isObject]

@[simp] theorem not_blocks_nil (value : Value) (front : List String) : ¬ value.Blocks [] front := by
  rintro ⟨back, given, whole, -⟩
  exact given (List.append_eq_nil_iff.mp whole.symm).2

/-- An object is blocked where the value of the first name is. -/
@[simp] theorem blocks_object_cons_iff {fields : Fields} {name other : String}
    {rest front : List String} : (object fields).Blocks (name :: rest) (other :: front) ↔
      other = name ∧ (Fields.get fields name).Blocks rest front := by
  constructor
  · rintro ⟨back, given, whole, filled, flat⟩
    obtain ⟨rfl, rfl⟩ := List.cons.inj whole
    exact ⟨rfl, back, given, rfl, filled, flat⟩
  · rintro ⟨rfl, back, given, rfl, filled, flat⟩
    exact ⟨back, given, rfl, filled, flat⟩

end Value

namespace Fields

/-- Reading comes to the value that the names lead to, unless one of them blocks: then it fails with
the way up to there. -/
theorem readBelow_cases (trail : List String) (last : String) (fields : Fields)
    (parents : List String) :
    (∃ found, readBelow trail last fields parents = .ok found ∧
        found.getD .null = (Value.object fields).valueAt (parents ++ [last]) ∧
        ∀ front, ¬ (Value.object fields).Blocks (parents ++ [last]) front) ∨
      ∃ front, readBelow trail last fields parents = .error (.brokenPath (trail ++ front)) ∧
        (Value.object fields).Blocks (parents ++ [last]) front := by
  induction parents generalizing trail fields with
  | nil =>
    refine .inl ⟨_, rfl, by simp [get], fun front => ?_⟩
    cases front <;> simp
  | cons part rest ih =>
    have free (value : Value) (open' : ∀ inner, ¬ value.Blocks (rest ++ [last]) inner)
        (here : get fields part = value) (front : List String) :
        ¬ (Value.object fields).Blocks (part :: rest ++ [last]) front := by
      cases front with
      | nil => simp
      | cons other inner => simp [here, open']
    rw [readBelow]
    -- A level that is absent or null ends the walk with nothing, any other than an object blocks it.
    cases found : get? fields part with
    | none =>
      have here : get fields part = .null := by rw [get, found, Option.getD_none]
      exact .inl ⟨none, rfl, by simp [here], free .null (by simp) here⟩
    | some value =>
      have here : get fields part = value := by rw [get, found, Option.getD_some]
      have ends (filled : value ≠ .null) (flat : value.isObject = false) :
          (Value.object fields).Blocks (part :: rest ++ [last]) [part] :=
        ⟨rest ++ [last], by simp, rfl, by simpa [here] using filled, by simpa [here] using flat⟩
      cases value with
      | null => exact .inl ⟨none, rfl, by simp [here], free .null (by simp) here⟩
      | object inner =>
        obtain ⟨found, read, same, open'⟩ | ⟨front, read, blocked⟩ := ih (trail ++ [part]) inner
        · exact .inl ⟨found, read, by simpa [here] using same, free _ open' here⟩
        · exact .inr ⟨part :: front, by simpa using read, by simpa [here] using blocked⟩
      | bool b => exact .inr ⟨[part], rfl, ends (by simp) rfl⟩
      | int n => exact .inr ⟨[part], rfl, ends (by simp) rfl⟩
      | float x => exact .inr ⟨[part], rfl, ends (by simp) rfl⟩
      | text s => exact .inr ⟨[part], rfl, ends (by simp) rfl⟩
      | list items => exact .inr ⟨[part], rfl, ends (by simp) rfl⟩

end Fields

namespace Value

variable {fields : Fields} {names : List String}

/-- What stands at a written path of an object is found unless the path is blocked, and then the
fault names the way up to the value that blocks it. -/
theorem atOr_join_cases (fields : Fields) (dotless : ∀ name ∈ names, Path.Dotless name)
    (given : names ≠ []) :
    ((object fields).atOr (Path.ofText (Path.join names)) .null =
        .ok ((object fields).valueAt names) ∧ ∀ front, ¬ (object fields).Blocks names front) ∨
      ∃ front, (object fields).atOr (Path.ofText (Path.join names)) .null =
        .error (.brokenPath front) ∧ (object fields).Blocks names front := by
  have parts := Path.parts_ofText_join dotless given
  obtain ⟨found, read, same, free⟩ | ⟨front, read, blocked⟩ := Fields.readBelow_cases []
    (Path.ofText (Path.join names)).last fields (Path.ofText (Path.join names)).parents
  · rw [Path.parts] at parts
    rw [parts] at same free
    exact .inl ⟨map_eq_ok_iff.mpr ⟨found, read, same⟩, free⟩
  · rw [Path.parts] at parts
    rw [parts] at blocked
    exact .inr ⟨front, map_eq_error_iff.mpr read, blocked⟩

end Value

end ManifestOwnership
