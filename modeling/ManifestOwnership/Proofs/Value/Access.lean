import ManifestOwnership.Proofs.Value.Overwrite

/-! # The laws of written paths

A path that a text writes is an address inside an object. What is written there is read there, of
two writes the last one counts, a write spares every place beside its own, and to write back what is
there changes nothing. `Holds` says without a walk that something is there, and `Path.Apart` that
neither of two paths leads through the other. When a write succeeds is no concern of the laws.
-/

namespace ManifestOwnership

/-- Neither of two paths leads through the other. -/
def Path.Apart (first second : Path) : Prop :=
  ¬ first.parts <+: second.parts ∧ ¬ second.parts <+: first.parts

namespace Value

/-- Some names lead from a value through objects to what it holds there. -/
inductive Holds : Value → List String → Value → Prop where
  | here {value : Value} : Holds value [] value
  | inside {fields : Fields} {name : String} {inner found : Value} {rest : List String}
      (present : Fields.get? fields name = some inner) (below : Holds inner rest found) :
      Holds (object fields) (name :: rest) found

variable {value changed found new : Value} {path : Path}

theorem holds_cons_iff {name : String} {rest : List String} : value.Holds (name :: rest) found ↔
    ∃ fields inner, value = object fields ∧ Fields.get? fields name = some inner ∧
      inner.Holds rest found := by
  constructor
  · intro holds
    cases holds with
    | inside present below => exact ⟨_, _, rfl, present, below⟩
  · rintro ⟨fields, inner, rfl, present, below⟩
    exact .inside present below

/-- What holds something at a place is an object, and it is read there. -/
theorem Holds.exists_readBelow {parents : List String} {last : String}
    (holds : value.Holds (parents ++ [last]) found) : ∃ fields, value = object fields ∧
      ∀ trail, Fields.readBelow trail last fields parents = .ok (some found) := by
  induction parents generalizing value with
  | nil =>
    obtain ⟨fields, inner, rfl, present, below⟩ := holds_cons_iff.mp holds
    cases below
    exact ⟨fields, rfl, fun trail => by rw [Fields.readBelow, present]⟩
  | cons part rest ih =>
    obtain ⟨fields, inner, rfl, present, below⟩ := holds_cons_iff.mp holds
    obtain ⟨content, rfl, read⟩ := ih below
    refine ⟨fields, rfl, fun trail => ?_⟩
    rw [Fields.readBelow, present]
    exact read _

theorem Holds.at?_eq (holds : value.Holds path.parts found) :
    value.at? path = .ok (some found) := by
  obtain ⟨fields, rfl, read⟩ := holds.exists_readBelow
  exact read []

/-- Where there is something, the fallback does not count. -/
theorem atOr_of_at? (read : value.at? path = .ok (some found)) (fallback : Value) :
    value.atOr path fallback = .ok found := by
  rw [atOr, read]
  rfl

/-- A second write at a place succeeds, with the outcome it would have had alone. -/
theorem exists_setAt_again (success : value.setAt path new = .ok changed) (second : Value) :
    ∃ last, changed.setAt path second = .ok last ∧ value.setAt path second = .ok last := by
  obtain ⟨last, again⟩ := exists_setAt second (at?_setAt success)
  exact ⟨last, again, (setAt_setAt success).symm.trans again⟩

/-- The laws of reading and writing in an object at the paths that texts write, empty names and
nulls on the way included. -/
theorem access_laws (fields : Fields) (key : String) :
    (∀ new changed, (object fields).setAt (Path.ofText key) new = .ok changed →
      (∀ fallback, changed.atOr (Path.ofText key) fallback = .ok new) ∧
      (∀ second, ∃ last, changed.setAt (Path.ofText key) second = .ok last ∧
        (object fields).setAt (Path.ofText key) second = .ok last) ∧
      ∀ key', (Path.ofText key).Apart (Path.ofText key') → ∀ fallback,
        changed.atOr (Path.ofText key') fallback =
          (object fields).atOr (Path.ofText key') fallback) ∧
    ∀ found, (object fields).Holds (Path.ofText key).parts found →
      (∀ fallback, (object fields).atOr (Path.ofText key) fallback = .ok found) ∧
        (object fields).setAt (Path.ofText key) found = .ok (object fields) := by
  refine ⟨fun new changed success => ⟨?_, ?_, ?_⟩, fun found holds => ⟨?_, ?_⟩⟩
  · exact atOr_of_at? (at?_setAt success)
  · exact exists_setAt_again success
  · intro key' apart fallback
    rw [atOr, at?_setAt_of_apart success apart.1 apart.2, atOr]
  · exact atOr_of_at? holds.at?_eq
  · exact setAt_of_at? holds.at?_eq

/-- An object with a null level and a field without a name. -/
def sketch : Fields :=
  [("spec", .null), ("status", .object [("", .int 1)])]

/-- A write through a null level, the default beside it, and a field without a name. -/
theorem access_laws_sketch : ∃ changed,
    (object sketch).setAt (Path.ofText "spec..kind") (.bool true) = .ok changed ∧
    (∀ fallback, changed.atOr (Path.ofText "spec..kind") fallback = .ok (.bool true)) ∧
    (∀ second, ∃ last, changed.setAt (Path.ofText "spec..kind") second = .ok last ∧
      (object sketch).setAt (Path.ofText "spec..kind") second = .ok last) ∧
    (Path.ofText "spec..kind").Apart (Path.ofText "spec.name.first") ∧
    (∀ fallback, changed.atOr (Path.ofText "spec.name.first") fallback =
      (object sketch).atOr (Path.ofText "spec.name.first") fallback) ∧
    (object sketch).Holds (Path.ofText "status.").parts (.int 1) ∧
    (object sketch).setAt (Path.ofText "status.") (.int 1) = .ok (object sketch) := by
  have apart : (Path.ofText "spec..kind").Apart (Path.ofText "spec.name.first") := by
    constructor <;> decide
  have holds : (object sketch).Holds (Path.ofText "status.").parts (.int 1) :=
    .inside rfl (.inside rfl .here)
  have laws := (access_laws sketch "spec..kind").1 (.bool true) _ rfl
  exact ⟨_, rfl, laws.1, laws.2.1, apart, laws.2.2 _ apart, holds,
    ((access_laws sketch "status.").2 _ holds).2⟩

end Value

end ManifestOwnership
