import ManifestOwnership.Proofs.Value.Dotted

/-! # Paths that are blocked

Reading ends at the first level that is absent or null, and writing makes that level and goes on.
Still both fail on the same objects: those where the path is blocked, by a value that is neither
null nor an object. A path is blocked at one place only, and the fault of either access names it. A
write that fails leaves the object as it was, although it works in place.
-/

namespace ManifestOwnership

namespace Value

variable {value : Value} {names front other : List String}

/-- Some names lead where the names after a front of them lead from there. -/
theorem valueAt_append (value : Value) (front back : List String) :
    value.valueAt (front ++ back) = (value.valueAt front).valueAt back := by
  induction front generalizing value with
  | nil => rw [List.nil_append, valueAt_nil]
  | cons name rest ih =>
    cases value with
    | object fields => exact ih (Fields.get fields name)
    | _ => exact (valueAt_null back).symm

/-- The way to what blocks a path goes through objects. -/
theorem Blocks.isObject_above {above : List String} (blocked : value.Blocks names front)
    (upper : above <+: front) (proper : above ≠ front) :
    (value.valueAt above).isObject = true := by
  obtain ⟨_, _, _, filled, _⟩ := blocked
  obtain ⟨rest, rfl⟩ := upper
  rw [valueAt_append] at filled
  cases rest with
  | nil => exact absurd (List.append_nil above).symm proper
  | cons name rest =>
    cases level : value.valueAt above with
    | object fields => rfl
    | _ =>
      rw [level] at filled
      exact absurd rfl filled

/-- A path is blocked at one place only. -/
theorem Blocks.unique (blocked : value.Blocks names front) (blocked' : value.Blocks names other) :
    front = other := by
  by_contra distinct
  have ⟨back, _, whole, _, flat⟩ := blocked
  have ⟨back', _, whole', _, flat'⟩ := blocked'
  -- Both are fronts of one list, and the longer one would have to lead through the shorter one.
  rcases List.prefix_or_prefix_of_prefix ⟨back, whole.symm⟩ ⟨back', whole'.symm⟩ with upper | upper
  · rw [blocked'.isObject_above upper distinct] at flat
    contradiction
  · rw [blocked.isObject_above upper (Ne.symm distinct)] at flat'
    contradiction

end Value

namespace Fields

variable {trail parents : List String} {last : String} {fields : Fields} {fault : Fault}

/-- Reading fails exactly if the path is blocked, and the fault names the way up to there. -/
theorem readBelow_eq_error_iff : readBelow trail last fields parents = .error fault ↔
    ∃ front, (Value.object fields).Blocks (parents ++ [last]) front ∧
      fault = .brokenPath (trail ++ front) := by
  obtain ⟨found, read, _, free⟩ | ⟨front, read, blocked⟩ :=
    readBelow_cases trail last fields parents
  · rw [read]
    constructor
    · intro failure
      contradiction
    · rintro ⟨front, blocked, _⟩
      exact absurd blocked (free front)
  · rw [read]
    constructor
    · intro failure
      exact ⟨front, blocked, (Except.error.inj failure).symm⟩
    · rintro ⟨other, blocked', rfl⟩
      rw [blocked.unique blocked']

end Fields

namespace Value

variable {fields : Fields} {path : Path} {fallback : Value} {fault : Fault}

/-- Reading at a path of an object fails exactly if the path is blocked. -/
theorem atOr_eq_error_iff : (object fields).atOr path fallback = .error fault ↔
    ∃ front, (object fields).Blocks path.parts front ∧ fault = .brokenPath front :=
  map_eq_error_iff.trans Fields.readBelow_eq_error_iff

/-- Reading and writing at the path that a text writes fail on the same objects, those that block
it. Both then name the shortest front of the path that leads to neither null nor an object, every
level above it being an object, and the write leaves the object as it was. -/
theorem accesses_fail_alike (fields : Fields) (key : String) (new fallback : Value) :
    ((∃ fault after, (object fields).putAt (Path.ofText key) new = (.error fault, after)) ↔
      ∃ fault, (object fields).atOr (Path.ofText key) fallback = .error fault) ∧
    ((∃ fault, (object fields).atOr (Path.ofText key) fallback = .error fault) ↔
      ∃ front, (object fields).Blocks (Path.ofText key).parts front) ∧
    ∀ fault after, (object fields).putAt (Path.ofText key) new = (.error fault, after) →
      after = object fields ∧ (object fields).atOr (Path.ofText key) fallback = .error fault ∧
      ∃ front, fault = .brokenPath front ∧
        fault.message? = some ("Intermediate key " ++ Path.join front ++ " is not a dict") ∧
        (object fields).Blocks (Path.ofText key).parts front ∧
        (∀ other, (object fields).Blocks (Path.ofText key).parts other →
          front.length ≤ other.length) ∧
        ∀ above, above <+: front → above ≠ front →
          ((object fields).valueAt above).isObject = true := by
  have reads (fault : Fault) : (object fields).at? (Path.ofText key) = .error fault ↔
      (object fields).atOr (Path.ofText key) fallback = .error fault :=
    map_eq_error_iff.symm
  refine ⟨⟨?_, ?_⟩, ⟨?_, ?_⟩, ?_⟩
  · rintro ⟨fault, after, failure⟩
    exact ⟨fault, (reads fault).mp (putAt_eq_error_iff.mp failure).1⟩
  · rintro ⟨fault, failure⟩
    exact ⟨fault, _, putAt_eq_error_iff.mpr ⟨(reads fault).mpr failure, rfl⟩⟩
  · rintro ⟨fault, failure⟩
    obtain ⟨front, blocked, _⟩ := atOr_eq_error_iff.mp failure
    exact ⟨front, blocked⟩
  · rintro ⟨front, blocked⟩
    exact ⟨.brokenPath front, atOr_eq_error_iff.mpr ⟨front, blocked, rfl⟩⟩
  · intro fault after failure
    obtain ⟨stopped, unchanged⟩ := putAt_eq_error_iff.mp failure
    have read := (reads fault).mp stopped
    obtain ⟨front, blocked, rfl⟩ := atOr_eq_error_iff.mp read
    refine ⟨unchanged, read, front, rfl, rfl, blocked, fun other blocked' => ?_, fun above => ?_⟩
    · exact Nat.le_of_eq (congrArg List.length (blocked.unique blocked'))
    · exact blocked.isObject_above

/-- An object with a null level, and a text below a field without a name. -/
def obstructed : Fields :=
  [("spec", .null), ("status", .object [("", .text "Ready")])]

/-- A text in the way stops both accesses, a null level stops neither. -/
theorem accesses_fail_alike_obstructed :
    ((object obstructed).putAt (Path.ofText "status..since") (.int 1) =
        (.error (.brokenPath ["status", ""]), object obstructed) ∧
      (object obstructed).atOr (Path.ofText "status..since") .null =
        .error (.brokenPath ["status", ""]) ∧
      (object obstructed).Blocks ["status", "", "since"] ["status", ""]) ∧
    ¬ ∃ front, (object obstructed).Blocks ["spec", "conversion", "strategy"] front := by
  constructor
  · obtain ⟨_, _, named⟩ := accesses_fail_alike obstructed "status..since" (.int 1) .null
    have failure : (object obstructed).putAt (Path.ofText "status..since") (.int 1) =
        (.error (.brokenPath ["status", ""]), object obstructed) := rfl
    obtain ⟨_, read, front, same, _, blocked, _⟩ := named _ _ failure
    obtain rfl := Fault.brokenPath.inj same
    exact ⟨failure, read, blocked⟩
  · obtain ⟨_, fails, _⟩ :=
      accesses_fail_alike obstructed "spec.conversion.strategy" (.int 1) .null
    intro blocked
    obtain ⟨fault, failure⟩ := fails.mpr blocked
    have read : (object obstructed).atOr (Path.ofText "spec.conversion.strategy") .null =
        .ok .null := rfl
    rw [read] at failure
    contradiction

end Value

end ManifestOwnership
