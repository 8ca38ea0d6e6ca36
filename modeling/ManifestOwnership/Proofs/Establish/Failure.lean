import ManifestOwnership.Proofs.Establish.Protocol

/-! # Passes that fail

A pass that ends in a fault has established its first objects, whole and as if there were no
others, and has written nothing else. This holds whatever the fault comes from: the party that the
pass is run against may fail any request, and a manifest may be beyond use at any place.
-/

namespace ManifestOwnership

open Store Interaction

variable {σ : Type} {issuer : Issuer} {inside : σ → Memory} {answer : σ → Request → Answer σ Value}
  {source after : σ} {exchanges : List (Request × Except Fault Value)} {fault : Fault}

namespace Pass

variable {pass : Pass} {declared desired : Value} {objects : List Value}

/-- An object whose write fails is not written. -/
theorem Applies.idle_of_fault (applies : pass.Applies desired exchanges (.error fault)) :
    ∀ exchange ∈ exchanges, exchange.1.isWrite = false ∨ ∃ fault, exchange.2 = .error fault := by
  generalize failure : Except.error fault = outcome at applies
  cases applies with
  | created _ _ _ reply =>
    cases reply with
    | ok stored => contradiction
    | error fault => simp
  | updated _ reply =>
    cases reply with
    | ok stored => contradiction
    | error fault => simp [request, Request.isWrite]
  | _ => simp [request, Request.isWrite]

theorem Calls.idle_of_fault (calls : pass.Calls declared exchanges (.error fault)) :
    ∀ exchange ∈ exchanges, exchange.1.isWrite = false ∨ ∃ fault, exchange.2 = .error fault := by
  cases calls with
  | unread => simp
  | applied _ applies => exact applies.idle_of_fault

section

variable (wraps : Wraps issuer inside answer) (sound : (inside source).Sound)

include wraps sound

/-- An object that cannot be established leaves the store. -/
theorem inside_of_fault
    (failure : ((pass.establishOne declared).run answer source).outcome = .error fault) :
    inside ((pass.establishOne declared).run answer source).state = inside source := by
  have answers := answers_run answer source (pass.establishOne declared)
  have plays := plays_run answer source (pass.establishOne declared)
  have calls := calls_of_plays plays (wraps.of_answers sound answers).2
  rw [failure] at calls
  exact wraps.inside_of_idle answers calls.idle_of_fault

/-- A fault ends the pass at one of the objects: those before it are established, and the course is
the one that it takes without those behind it. -/
theorem stops_at_object
    (failure : ((pass.establishAll objects).run answer source).outcome = .error fault) :
    ∃ i < objects.length, ∃ results after,
      Yields answer source (pass.establishAll (objects.take i)) results after ∧
        inside after = inside ((pass.establishAll objects).run answer source).state ∧
        (pass.establishAll (objects.take (i + 1))).run answer source =
          (pass.establishAll objects).run answer source := by
  induction objects generalizing source with
  | nil => contradiction
  | cons declared rest ih =>
    cases one : ((pass.establishOne declared).run answer source).outcome with
    | error fault' =>
      refine ⟨0, Nat.zero_lt_succ _, [], source, ⟨rfl, rfl⟩, ?_, ?_⟩
      · rw [establishAll, run_seq_of_fault one]
        exact (inside_of_fault wraps sound one).symm
      · rw [List.take_succ_cons, establishAll, establishAll, run_seq_of_fault one,
          run_seq_of_fault one]
    | ok result =>
      have first : Yields answer source (pass.establishOne declared) result _ := ⟨one, rfl⟩
      have sound' := (wraps.of_answers sound
        (answers_run answer source (pass.establishOne declared))).1
      generalize ((pass.establishOne declared).run answer source).state = middle at first sound'
      rw [establishAll, run_seq_of_yields first] at failure ⊢
      have later : ((pass.establishAll rest).run answer middle).outcome = .error fault := by
        obtain later | ⟨others, _, _, last⟩ := seq_fails_iff.mp failure
        · exact later
        · contradiction
      obtain ⟨i, below, results, after, front, left, same⟩ := ih sound' later
      refine ⟨i + 1, Nat.succ_lt_succ below, result :: results, after, ?_, ?_, ?_⟩
      · rw [List.take_succ_cons]
        exact yields_establishAll_cons_iff.mpr ⟨result, middle, results, first, front, rfl⟩
      · rw [run_seq_of_fault later, left]
      · rw [List.take_succ_cons, establishAll, run_seq_of_yields first]
        simp only [run_seq, same]

end

end Pass

namespace Undertaking

variable {undertaking : Undertaking} {bundle : Option Webhook.CABundle}

/-- Fetching the bundle leaves the store, whether it succeeds or not. -/
theorem inside_fetch (wraps : Wraps issuer inside answer) (undertaking : Undertaking)
    (source : σ) : inside (undertaking.fetch.run answer source).state = inside source := by
  refine wraps.inside_of_idle (answers_run answer source undertaking.fetch) ?_
  intro exchange member
  have fetches := fetches_of_plays (plays_run answer source undertaking.fetch)
  exact .inl (fetches.reads exchange member)

private theorem exists_first_eq (undertaking : Undertaking) :
    ∃ event : List Established → Log.Event,
      undertaking.activity =
          Establisher.titled (undertaking.fetch >>= undertaking.conduct event) ∧
        ∀ count, (undertaking.first count).activity =
          Establisher.titled (undertaking.fetch >>= (undertaking.first count).conduct event) :=
  ⟨_, rfl, fun _ => rfl⟩

/-- A pass that is not refused fails at one of its objects. -/
theorem conduct_fails {event : List Established → Log.Event}
    (wraps : Wraps issuer inside answer) (sound : (inside source).Sound)
    (accepted : bundle = none → ∀ declared ∈ undertaking.objects,
      Webhook.needsConversion declared = .ok false)
    (failure : ((undertaking.conduct event bundle).run answer source).outcome = .error fault) :
    ∃ i < undertaking.objects.length, ∃ results after,
      Yields answer source ((undertaking.first i).conduct event bundle) results after ∧
        inside after = inside ((undertaking.conduct event bundle).run answer source).state ∧
        ((undertaking.first (i + 1)).conduct event bundle).run answer source =
          (undertaking.conduct event bundle).run answer source := by
  have accepted' (count : Nat) : bundle = none → ∀ declared ∈ (undertaking.first count).objects,
      Webhook.needsConversion declared = .ok false :=
    fun none declared member => accepted none declared (List.mem_of_mem_take member)
  rw [conduct_eq undertaking event accepted] at failure ⊢
  have stopped : (((undertaking.pass bundle).establishAll undertaking.objects).run answer
      source).outcome = .error fault := by
    obtain stopped | ⟨results, middle, _, concluded⟩ := seq_fails_iff.mp failure
    · exact stopped
    · contradiction
  obtain ⟨i, below, results, after, front, left, same⟩ :=
    Pass.stops_at_object wraps sound stopped
  refine ⟨i, below, results, after, yields_conduct_iff.mpr ⟨accepted' i, front⟩, ?_, ?_⟩
  · rw [run_seq_of_fault stopped, left]
  · rw [conduct_eq _ event (accepted' (i + 1)), run_seq_of_fault stopped, ← same]
    exact run_seq_of_fault (same ▸ stopped) _

private theorem run_conduct_of_refused (answer : σ → Request → Answer σ Value) (source : σ)
    (event : List Established → Log.Event) (unaccepted : ¬ ∀ declared ∈ undertaking.objects,
      Webhook.needsConversion declared = .ok false) :
    ((undertaking.conduct event none).run answer source).state = source ∧
      ((undertaking.conduct event none).run answer source).exchanges = [] := by
  cases judged : (Establisher.refuseConversion undertaking.objects).outcome with
  | ok done => exact absurd (outcome_refuseConversion_iff.mp judged) unaccepted
  | error refusal =>
    have refused : (undertaking.conduct event none).run answer source = _ :=
      run_seq_of_fault (by rw [run_liftReported, judged]) _
    rw [refused, run_liftReported]
    exact ⟨rfl, rfl⟩

/-- A fault comes from fetching the bundle or from refusing the pass, or it ends the pass at one of
the objects. -/
theorem stops_at_object (undertaking : Undertaking) (wraps : Wraps issuer inside answer)
    (sound : (inside source).Sound)
    (failure : (undertaking.activity.run answer source).outcome = .error fault) :
    (inside (undertaking.activity.run answer source).state = inside source ∧
        (undertaking.activity.run answer source).exchanges =
          (undertaking.fetch.run answer source).exchanges) ∨
      ∃ i < undertaking.objects.length, ∃ results after,
        Yields answer source (undertaking.first i).activity results after ∧
          inside after = inside (undertaking.activity.run answer source).state ∧
          (undertaking.first (i + 1)).activity.run answer source =
            undertaking.activity.run answer source := by
  obtain ⟨event, whole, first⟩ := undertaking.exists_first_eq
  simp only [whole, first, Establisher.titled, yields_titled_iff, run_titled] at failure ⊢
  obtain stopped | ⟨bundle, middle, fetched, failed⟩ := seq_fails_iff.mp failure
  · rw [run_seq_of_fault stopped]
    exact .inl ⟨inside_fetch wraps undertaking source, rfl⟩
  · have kept : inside middle = inside source := fetched.2 ▸ inside_fetch wraps undertaking source
    rw [run_seq_of_yields fetched]
    by_cases accepted : bundle = none → ∀ declared ∈ undertaking.objects,
        Webhook.needsConversion declared = .ok false
    · right
      obtain ⟨i, below, results, after, front, left, taken⟩ :=
        conduct_fails wraps (kept ▸ sound) accepted failed
      refine ⟨i, below, results, after, yields_bind_iff.mpr ⟨bundle, middle, fetched, front⟩, left,
        ?_⟩
      rw [run_seq_of_yields fetched, taken]
    · left
      obtain ⟨rfl, unaccepted⟩ := Classical.not_imp.mp accepted
      obtain ⟨unchanged, unasked⟩ := run_conduct_of_refused answer middle event unaccepted
      exact ⟨(congrArg inside unchanged).trans kept, by rw [unasked, List.append_nil]⟩

/-- Whether it succeeds or not, a pass leaves a store as it was or as a successful pass over its
first objects does. -/
theorem exists_first (issuer : Issuer) (undertaking : Undertaking) {memory : Memory}
    (sound : memory.Sound) :
    (undertaking.activity.run (Memory.answer issuer) memory).state = memory ∨
      ∃ count results, Yields (Memory.answer issuer) memory (undertaking.first count).activity
        results (undertaking.activity.run (Memory.answer issuer) memory).state := by
  cases ended : (undertaking.activity.run (Memory.answer issuer) memory).outcome with
  | ok results =>
    have whole : undertaking.first undertaking.objects.length = undertaking := by
      rw [first, List.take_length]
    exact .inr ⟨undertaking.objects.length, results, by rw [whole]; exact ⟨ended, rfl⟩⟩
  | error fault =>
    obtain ⟨unchanged, _⟩ | ⟨i, _, results, after, front, same, _⟩ :=
      stops_at_object undertaking (Memory.wraps issuer) sound ended
    · exact .inl unchanged
    · obtain rfl : after = _ := same
      exact .inr ⟨i, results, front⟩

/-- Whether it succeeds or not, a pass leaves every identity that it does not declare. -/
theorem find?_run_of_not_declares (issuer : Issuer) (undertaking : Undertaking) {memory : Memory}
    {key : ObjectKey} (sound : memory.Sound) (apart : ¬ undertaking.Declares key) :
    (undertaking.activity.run (Memory.answer issuer) memory).state.find? key =
      memory.find? key := by
  obtain unchanged | ⟨count, results, success⟩ := exists_first issuer undertaking sound
  · rw [unchanged]
  · obtain ⟨bundle, _, _, all⟩ := yields_activity_iff.mp success
    refine find?_of_not_declares (undertaking.first count) all sound ?_
    rintro ⟨declared, member, final⟩
    exact apart ⟨declared, List.mem_of_mem_take member, final⟩

/-- A pass that fails has either not come to its objects, and leaves the store, or it fails at one
of them: then the pass over those before it succeeds and leaves the same store, and the pass that
ends with it takes the same course. -/
theorem fails_at_object (undertaking : Undertaking) (wraps : Wraps issuer inside answer)
    (reachable : (inside source).Reachable issuer)
    (failure : (undertaking.activity.run answer source).outcome = .error fault) :
    (inside (undertaking.activity.run answer source).state = inside source ∧
        (undertaking.activity.run answer source).exchanges =
          (undertaking.fetch.run answer source).exchanges) ∨
      ∃ i < undertaking.objects.length, ∃ results after,
        Yields answer source (undertaking.first i).activity results after ∧
          inside after = inside (undertaking.activity.run answer source).state ∧
          (undertaking.first (i + 1)).activity.run answer source =
            undertaking.activity.run answer source :=
  undertaking.stops_at_object wraps reachable.sound failure

/-- A revision takes control of an object, and the store fails to write the next one. -/
theorem fails_at_object_refusing : ∃ store course,
    store = Scripted.refusing "b" (Memory.empty true) ∧
    (ofNames "r" ["a", "b", "c"] true).activity.run (Scripted.answer Memory.numerals) store =
      course ∧
    course.outcome.map (List.map (·.outcome)) = .error (.problem .cluster "down") ∧
    ∃ i < 3, ∃ results after,
      Yields (Scripted.answer Memory.numerals) store
        ((ofNames "r" ["a", "b", "c"] true).first i).activity results after ∧
      after.memory = course.state.memory ∧
      ((ofNames "r" ["a", "b", "c"] true).first (i + 1)).activity.run
        (Scripted.answer Memory.numerals) store = course := by
  have start : (Scripted.refusing "b" (Memory.empty true)).memory.Reachable Memory.numerals :=
    .start (show Memory.ofResources Memory.numerals true [] = .ok _ from rfl)
  refine ⟨_, _, rfl, rfl, rfl, ?_⟩
  obtain ⟨_, exchanges⟩ | later := fails_at_object (ofNames "r" ["a", "b", "c"] true)
    (Scripted.wraps Memory.numerals) start
    (show _ = Except.error (Fault.problem .cluster "down") from rfl)
  · exact absurd (congrArg List.length exchanges) (by decide)
  · exact later

end Undertaking

end ManifestOwnership
