import ManifestOwnership.Proofs.Establish.Conversion

/-! # A pass and a store in memory

A store in memory refuses no write of a pass. It is asked to create what it has just said to be
missing, and to replace what it has just handed over, under the same identity and at the same
version. So none of the faults that a store reports ends a pass: what is missing is created or left
out, and a missing secret is told as a secret that cannot be read.
-/

namespace ManifestOwnership

open Store Interaction

variable {issuer : Issuer} {memory after : Memory} {key : ObjectKey} {fault : Fault}
  {exchanges : List (Request × Except Fault Value)}

namespace Pass

variable {pass : Pass} {declared desired current target : Value} {objects : List Value}
  {reply : Except Fault Value}

private theorem found_of_reading (replied : (memory.answer issuer (request desired)).reply = reply) :
    (∃ fault, reply = .error fault ∧ fault.problem? = none ∧ fault.isObjectMissing = false) ∨
      ∃ key, Manifest.key desired = .ok key ∧
        ((∃ fault, reply = .error fault ∧ fault.isObjectMissing = true ∧ memory.find? key = none) ∨
          ∃ current, reply = .ok current ∧ memory.find? key = some current) := by
  cases atKey : Manifest.key desired with
  | error fault =>
    obtain ⟨same, other⟩ : (memory.answer issuer (request desired)).reply = .error fault ∧
        fault.isObjectMissing = false := Memory.reply_get_of_error atKey
    exact .inl ⟨fault, replied.symm.trans same, ObjectKey.nameless_of _ _ _ _ fault atKey, other⟩
  | ok key =>
    refine .inr ⟨key, rfl, ?_⟩
    cases found : memory.find? key with
    | none =>
      obtain ⟨fault, same, missing⟩ := Memory.reply_get_of_none issuer atKey found
      exact .inl ⟨fault, replied.symm.trans same, missing, rfl⟩
    | some current =>
      have same : (memory.answer issuer (request desired)).reply = .ok current :=
        Memory.reply_get_of_some atKey found
      exact .inr ⟨current, replied.symm.trans same, rfl⟩

/-- What is created in place of a missing object is accepted. -/
theorem creates (issuer : Issuer) (formed : Manifest.Formed desired)
    (atKey : Manifest.key desired = .ok key) (absent : memory.find? key = none)
    (made : pass.addition desired = .ok target) :
    ∃ stored, (memory.answer issuer (.create target)).reply = .ok stored := by
  have agree := agree_of_owned made formed
  have atTarget : Manifest.key target = .ok key := by
    rw [agree.key_eq (by decide) (by decide), atKey]
  have accepted : Yields (Memory.answer issuer) memory (.ask (.create target)) _ _ :=
    Memory.yields_create_iff.mpr ⟨agree.left.writable, key, atTarget, absent, rfl, rfl⟩
  exact ⟨_, (yields_ask_iff.mp accepted).1⟩

/-- What takes the place of an object that was read is accepted. -/
theorem replaces (issuer : Issuer) (sound : memory.Sound) (formed : Manifest.Formed desired)
    (atKey : Manifest.key desired = .ok key) (present : memory.find? key = some current)
    (made : pass.replacement current desired = .ok target) :
    ∃ stored, (memory.answer issuer (.update target)).reply = .ok stored := by
  have held := sound.held key current present
  rw [replacement] at made
  cases control : pass.takesControl with
  | false =>
    rw [if_neg (by simp [control])] at made
    obtain ⟨refs, _, rfl⟩ := (outcome_owned_eq_ok_iff control held.formed).mp made
    obtain ⟨own, atOwn, same⟩ := held.filed
    obtain ⟨stored, accepted⟩ :=
      yields_ask_update issuer sound present held.formed atOwn same rfl refs
    exact ⟨stored, (yields_ask_iff.mp accepted).1⟩
  | true =>
    rw [if_pos control, atVersion_eq held.formed formed held.version_truthy, ok_bind] at made
    have agree := agree_versioned formed current
    have timely : Fields.get (Manifest.versioned current desired).metadata "resourceVersion" =
        Fields.get current.metadata "resourceVersion" := by
      rw [Manifest.versioned, formed.metadata_withMetadata, Fields.get_set_self]
    obtain ⟨refs, _, rfl⟩ := (outcome_owned_eq_ok_iff control agree.left).mp made
    obtain ⟨stored, accepted⟩ := yields_ask_update issuer sound present agree.left
      ((key_versioned formed current).trans atKey) (ObjectKey.same_refl key) timely refs
    exact ⟨stored, (yields_ask_iff.mp accepted).1⟩

theorem nameless_replacement (pass : Pass) (current desired : Value) :
    Nameless (pass.replacement current desired) := by
  simp [replacement]

/-- If a desired object cannot be established, it is because a manifest is of no use. -/
theorem Applies.problem_of_fault (sound : memory.Sound) (formed : Manifest.Formed desired)
    (applies : pass.Applies desired exchanges (.error fault))
    (answers : Answers (Memory.answer issuer) memory exchanges after) : fault.problem? = none := by
  generalize failure : Except.error fault = outcome at applies
  cases applies with
  | refused other =>
    obtain rfl := Except.error.inj failure
    obtain ⟨fault', same, unnamed, _⟩ | ⟨key, _, ⟨fault', same, missing, _⟩ | ⟨_, same, _⟩⟩ :=
      found_of_reading answers.1
    · exact Except.error.inj same ▸ unnamed
    · obtain rfl := Except.error.inj same
      simp [missing] at other
    · contradiction
  | skipped => contradiction
  | unmade _ _ unmade =>
    obtain rfl := Except.error.inj failure
    exact nameless_owned pass true desired desired fault unmade
  | created isMissing control made reply =>
    obtain ⟨read, written, _⟩ := answers
    obtain ⟨_, same, _, other⟩ | ⟨key, atKey, ⟨_, _, _, absent⟩ | ⟨_, same, _⟩⟩ :=
      found_of_reading read
    · obtain rfl := Except.error.inj same
      simp [isMissing] at other
    · obtain ⟨stored, accepted⟩ := creates issuer formed atKey absent made
      obtain rfl : reply = .ok stored := written.symm.trans accepted
      contradiction
    · contradiction
  | unchanged unmade =>
    obtain rfl := Except.error.inj failure
    exact nameless_replacement pass _ desired fault unmade
  | @updated current _ made reply =>
    obtain ⟨read, written, _⟩ := answers
    obtain ⟨_, same, _⟩ | ⟨key, atKey, ⟨_, same, _⟩ | ⟨current', same, present⟩⟩ :=
      found_of_reading read
    · contradiction
    · contradiction
    · obtain rfl : current = current' := Except.ok.inj same
      obtain ⟨stored, accepted⟩ := replaces issuer sound formed atKey present made
      obtain rfl : reply = .ok stored := written.symm.trans accepted
      contradiction

theorem Calls.problem_of_fault (sound : memory.Sound)
    (calls : pass.Calls declared exchanges (.error fault))
    (answers : Answers (Memory.answer issuer) memory exchanges after) : fault.problem? = none := by
  generalize failure : Except.error fault = outcome at calls
  cases calls with
  | unread fails =>
    obtain rfl := Except.error.inj failure
    have nameless : Nameless ((pass.prepare declared).outcome >>= reading) := by simp
    exact nameless fault fails
  | applied ready applies =>
    subst failure
    exact applies.problem_of_fault sound ready.formed answers

/-- A pass over declared objects ends in no fault that a store in memory reports. -/
theorem CallsAll.problem_of_fault (sound : memory.Sound)
    (calls : pass.CallsAll objects exchanges (.error fault))
    (answers : Answers (Memory.answer issuer) memory exchanges after) : fault.problem? = none := by
  generalize failure : Except.error fault = outcomes at calls
  induction calls generalizing memory with
  | done => contradiction
  | stopped one =>
    obtain rfl := Except.error.inj failure
    exact one.problem_of_fault sound answers
  | @next _ _ _ _ outcome outcomes one _ ih =>
    obtain ⟨middle, first, second⟩ := answers_append_iff.mp answers
    have sound' := ((Memory.wraps issuer).of_answers sound first).1
    cases outcomes with
    | ok others => contradiction
    | error fault' =>
      obtain rfl := Except.error.inj failure
      exact ih sound' second rfl

end Pass

namespace Undertaking

/-- The problems that a store in memory reports. -/
def storeProblems : List Problem :=
  [.objectMissing, .objectExists, .objectConflict]

private theorem ne_of_problem (undertaking : Undertaking) (reachable : memory.Reachable issuer)
    (failure : (undertaking.activity.run (Memory.answer issuer) memory).outcome = .error fault) :
    ∀ problem ∈ storeProblems, fault.problem? ≠ some problem := by
  have sound := reachable.sound
  have answers := answers_run (Memory.answer issuer) memory undertaking.activity
  have standIn := ((Memory.wraps issuer).of_answers sound answers).2
  have protocol := protocol_of_plays
    (plays_run (Memory.answer issuer) memory undertaking.activity) standIn
  rw [failure] at protocol
  have named : fault.problem? = none ∨ fault.problem? = some .conversionWithoutAuthority ∨
      fault.problem? = some .secretUnreadable ∨ fault.problem? = some .secretWithoutBundle := by
    generalize (undertaking.activity.run (Memory.answer issuer) memory).exchanges = exchanges
      at protocol answers
    generalize failed : Except.map (List.map Established.outcome) (.error fault) = outcomes
      at protocol
    cases protocol with
    | unfetched fetched =>
      obtain rfl := Except.error.inj failed
      exact fetched.problem_of_fault.imp_right .inr
    | rejected _ refused =>
      obtain rfl := Except.error.inj failed
      exact (Establisher.problem_of_refuseConversion refused).imp_right .inl
    | conducted fetched _ all =>
      obtain ⟨middle, first, second⟩ := answers_append_iff.mp answers
      obtain rfl : middle = memory := (Memory.wraps issuer).inside_of_idle first
        fun exchange member => .inl (fetched.reads exchange member)
      obtain rfl := failed
      exact .inl (all.problem_of_fault sound second)
  intro problem member same
  rw [same] at named
  cases problem <;> simp_all [storeProblems]

/-- No pass against a store in memory ends in a fault that the store reports, whether the revision
is given as such or as a manifest. A missing secret is told as one that cannot be read. -/
theorem never_refused_by_store (undertaking : Undertaking) (reachable : memory.Reachable issuer) :
    (∀ fault, (undertaking.activity.run (Memory.answer issuer) memory).outcome = .error fault →
        ∀ problem ∈ storeProblems, fault.problem? ≠ some problem) ∧
      (∀ manifest fault, ((undertaking.establisher.establishFor undertaking.settings
          (.list undertaking.objects) manifest undertaking.control).run (Memory.answer issuer)
            memory).outcome = .error fault →
        ∀ problem ∈ storeProblems, fault.problem? ≠ some problem) ∧
      ∀ key, undertaking.secretKey = .ok (some key) → memory.find? key = none → ∃ cause,
        (undertaking.activity.run (Memory.answer issuer) memory).outcome =
            .error (.secretUnreadable Problem.secretUnreadable.defaultMessage cause) ∧
          cause.isObjectMissing = true := by
  refine ⟨fun fault failure => ne_of_problem undertaking reachable failure,
    fun manifest fault failure => ?_, fun key atSecret absent => ?_⟩
  · rw [establishFor_eq] at failure
    cases viewed : Revision.ofManifest manifest with
    | ok revision =>
      rw [viewed] at failure
      exact ne_of_problem { undertaking with parent := revision } reachable failure
    | error fault' =>
      rw [viewed] at failure
      obtain rfl : fault' = fault := Except.error.inj failure
      simp [Revision.nameless_ofManifest manifest fault' viewed]
  · obtain ⟨cause, failure, missing⟩ := outcome_fetch_of_missing issuer atSecret absent
    obtain ⟨event, same⟩ := undertaking.exists_activity_eq
    refine ⟨cause, ?_, missing⟩
    rw [same, Establisher.titled, run_titled, run_seq_of_fault failure]

/-- The secret that a revision names is missing, and the pass says that it cannot read it. -/
theorem never_refused_by_store_securedBy : ∃ memory course,
    memory = ((Memory.empty true).answer Memory.numerals (.create (bare "a"))).state ∧
    Memory.Reachable Memory.numerals memory ∧
    (securedBy (.text "s") [bare "a"] true).activity.run (Memory.answer Memory.numerals) memory =
      course ∧
    ∃ fault, course.outcome = .error fault ∧ fault.cause?.map Fault.isObjectMissing = some true ∧
      ∀ problem ∈ storeProblems, fault.problem? ≠ some problem := by
  have start : Memory.Reachable Memory.numerals (Memory.empty true) :=
    .start (show Memory.ofResources Memory.numerals true [] = .ok _ from rfl)
  have reachable := start.answer (.create (bare "a"))
  obtain ⟨refusals, _, unread⟩ :=
    never_refused_by_store (securedBy (.text "s") [bare "a"] true) reachable
  obtain ⟨cause, failure, missing⟩ := unread
    ⟨.text "test", .text "Secret", .text "v1", .text "s"⟩ rfl rfl
  exact ⟨_, _, rfl, reachable, rfl, _, failure, by simp [Fault.cause?, missing],
    refusals _ failure⟩

end Undertaking

end ManifestOwnership
