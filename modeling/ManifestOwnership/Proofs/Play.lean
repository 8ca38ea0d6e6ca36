import ManifestOwnership.Proofs.Success

/-! # What an activity asks

`Interaction.Plays` says which requests an activity can make, with the replies it gets, and how it
ends then. The replies are free: nothing is assumed of the other party, and whatever party the
activity is run against, the course it takes is one of its plays. `Interaction.Answers` is the
other side of this. It says that a party gives the replies of a play, one after another, and what
state it is left in.
-/

namespace ManifestOwnership.Interaction

variable {ρ ω σ α β : Type} {activity : Interaction ρ ω α}
  {exchanges : List (ρ × Except Fault ω)} {outcome : Except Fault α}
  {answer : σ → ρ → Answer σ ω} {source target : σ}

/-- An activity can make some requests, with the replies it gets, and then ends in an outcome. -/
def Plays : Interaction ρ ω α → List (ρ × Except Fault ω) → Except Fault α → Prop
  | done a, exchanges, outcome => exchanges = [] ∧ outcome = .ok a
  | fail fault, exchanges, outcome => exchanges = [] ∧ outcome = .error fault
  | report _ rest, exchanges, outcome => rest.Plays exchanges outcome
  | request r resume, exchanges, outcome => ∃ reply later, exchanges = (r, reply) :: later ∧
      (resume reply).Plays later outcome

/-- Every course is a play, whatever the party. -/
theorem plays_run (answer : σ → ρ → Answer σ ω) (source : σ) (activity : Interaction ρ ω α) :
    activity.Plays (activity.run answer source).exchanges (activity.run answer source).outcome := by
  induction activity generalizing source with
  | done a => exact ⟨rfl, rfl⟩
  | fail fault => exact ⟨rfl, rfl⟩
  | report event rest ih => exact ih source
  | request r resume ih => exact ⟨_, _, rfl, ih _ _⟩

@[simp] theorem plays_pure_iff {a : α} :
    (pure a : Interaction ρ ω α).Plays exchanges outcome ↔ exchanges = [] ∧ outcome = .ok a :=
  Iff.rfl

@[simp] theorem plays_fail_iff {fault : Fault} :
    (fail fault : Interaction ρ ω α).Plays exchanges outcome ↔
      exchanges = [] ∧ outcome = .error fault := Iff.rfl

@[simp] theorem plays_report_iff {event : Log.Event} :
    (report event activity).Plays exchanges outcome ↔ activity.Plays exchanges outcome := Iff.rfl

@[simp] theorem plays_request_iff {r : ρ} {resume : Except Fault ω → Interaction ρ ω α} :
    (request r resume).Plays exchanges outcome ↔ ∃ reply later, exchanges = (r, reply) :: later ∧
      (resume reply).Plays later outcome := Iff.rfl

/-- A sequence of activities makes the requests of the first part and, if that has a result, goes
on with those of the second. -/
@[simp] theorem plays_bind_iff {next : α → Interaction ρ ω β} {outcome : Except Fault β} :
    (activity >>= next).Plays exchanges outcome ↔
      (∃ fault, activity.Plays exchanges (.error fault) ∧ outcome = .error fault) ∨
        ∃ a early late, activity.Plays early (.ok a) ∧ (next a).Plays late outcome ∧
          exchanges = early ++ late := by
  change (activity.bind next).Plays exchanges outcome ↔ _
  induction activity generalizing exchanges with
  | done a => simp [bind, Plays]
  | fail fault => simp [bind, Plays]
  | report event rest ih => exact ih
  | request r resume ih =>
    simp only [bind, plays_request_iff, ih]
    constructor
    · rintro ⟨reply, later, rfl, ⟨fault, failed, rfl⟩ | ⟨a, early, late, first, second, rfl⟩⟩
      · exact .inl ⟨fault, ⟨reply, later, rfl, failed⟩, rfl⟩
      · exact .inr ⟨a, (r, reply) :: early, late, ⟨reply, early, rfl, first⟩, second, rfl⟩
    · rintro (⟨fault, ⟨reply, later, rfl, failed⟩, rfl⟩ |
        ⟨a, _, late, ⟨reply, early, rfl, first⟩, second, rfl⟩)
      · exact ⟨reply, later, rfl, .inl ⟨fault, failed, rfl⟩⟩
      · exact ⟨reply, early ++ late, rfl, .inr ⟨a, early, late, first, second, rfl⟩⟩

@[simp] theorem plays_ofExcept_iff {given : Except Fault α} :
    (ofExcept given : Interaction ρ ω α).Plays exchanges outcome ↔
      exchanges = [] ∧ outcome = given := by
  cases given <;> exact Iff.rfl

@[simp] theorem plays_lift_iff {given : Except Fault α} :
    (liftM given : Interaction ρ ω α).Plays exchanges outcome ↔
      exchanges = [] ∧ outcome = given :=
  plays_ofExcept_iff

@[simp] theorem plays_liftReported_iff {reported : Log.Reported α} :
    (liftM reported : Interaction ρ ω α).Plays exchanges outcome ↔
      exchanges = [] ∧ outcome = reported.outcome := by
  change (ofReported reported : Interaction ρ ω α).Plays exchanges outcome ↔ _
  obtain ⟨events, given⟩ := reported
  simp only [ofReported, reportAll]
  induction events with
  | nil => exact plays_ofExcept_iff
  | cons event rest ih => rw [List.foldr_cons, plays_report_iff, ih]

@[simp] theorem lift_ok_bind (a : α) (next : α → Interaction ρ ω β) :
    (liftM (Except.ok a : Except Fault α) >>= next : Interaction ρ ω β) = next a := rfl

/-- Work that has a result is gone on from. -/
theorem plays_bind_of_ok {reported : Log.Reported α} {next : α → Interaction ρ ω β} {a : α}
    {outcome : Except Fault β} (success : reported.outcome = .ok a) :
    (liftM reported >>= next).Plays exchanges outcome ↔ (next a).Plays exchanges outcome := by
  simp [success]

/-- Work that ends in a fault is the end of it all, and nothing is asked. -/
theorem plays_bind_of_error {reported : Log.Reported α} {next : α → Interaction ρ ω β}
    {fault : Fault} {outcome : Except Fault β} (failure : reported.outcome = .error fault) :
    (liftM reported >>= next).Plays exchanges outcome ↔
      exchanges = [] ∧ outcome = .error fault := by
  simp [failure]

/-- Work in front of an activity makes no request, and its fault is the end of it all. -/
theorem plays_lift_bind_iff {given : Except Fault α} {next : α → Interaction ρ ω β}
    {outcome : Except Fault β} :
    (liftM given >>= next : Interaction ρ ω β).Plays exchanges outcome ↔
      (∃ fault, given = .error fault ∧ exchanges = [] ∧ outcome = .error fault) ∨
        ∃ a, given = .ok a ∧ (next a).Plays exchanges outcome := by
  cases given <;> simp

@[simp] theorem plays_tryAsk_iff {r : ρ} {outcome : Except Fault (Except Fault ω)} :
    (tryAsk r).Plays exchanges outcome ↔ ∃ reply, exchanges = [(r, reply)] ∧
      outcome = .ok reply := by
  change (request r done).Plays exchanges outcome ↔ _
  rw [plays_request_iff]
  constructor
  · rintro ⟨reply, _, rfl, rfl, rfl⟩
    exact ⟨reply, rfl, rfl⟩
  · rintro ⟨reply, rfl, rfl⟩
    exact ⟨reply, [], rfl, rfl, rfl⟩

@[simp] theorem plays_ask_iff {r : ρ} {outcome : Except Fault ω} :
    (ask r).Plays exchanges outcome ↔ exchanges = [(r, outcome)] := by
  rw [ask, plays_request_iff]
  constructor
  · rintro ⟨reply, later, rfl, last⟩
    obtain ⟨rfl, rfl⟩ := plays_ofExcept_iff.mp last
    rfl
  · rintro rfl
    exact ⟨outcome, [], rfl, plays_ofExcept_iff.mpr ⟨rfl, rfl⟩⟩

@[simp] theorem plays_titled_iff {channel : Log.Channel} {level : Log.Level} {title : String} :
    (activity.titled channel level title).Plays exchanges outcome ↔
      activity.Plays exchanges outcome := by
  rw [titled, plays_report_iff]
  induction activity generalizing exchanges with
  | done a => exact Iff.rfl
  | fail fault => exact Iff.rfl
  | report event rest ih => exact ih
  | request r resume ih => simp only [closing, plays_request_iff, ih]

/-- To hand over a fault instead of ending in it asks for the same. -/
@[simp] theorem plays_attempt_iff {outcome : Except Fault (Except Fault α)} :
    activity.attempt.Plays exchanges outcome ↔
      ∃ result, activity.Plays exchanges result ∧ outcome = .ok result := by
  induction activity generalizing exchanges with
  | done a => simp [attempt, Plays]
  | fail fault => simp [attempt, Plays]
  | report event rest ih => exact ih
  | request r resume ih =>
    simp only [attempt, plays_request_iff, ih]
    constructor
    · rintro ⟨reply, later, rfl, result, plays, rfl⟩
      exact ⟨result, ⟨reply, later, rfl, plays⟩, rfl⟩
    · rintro ⟨result, ⟨reply, later, rfl, plays⟩, rfl⟩
      exact ⟨reply, later, rfl, result, plays, rfl⟩

/-- An activity whose requests are served by another activity asks, round by round, what serves each
of its requests, and goes on with what that comes to. -/
theorem plays_through_iff {ρ' ω' : Type} {serve : ρ → Interaction ρ' ω' ω}
    {exchanges : List (ρ' × Except Fault ω')} :
    (activity.through serve).Plays exchanges outcome ↔
      ∃ rounds : List ((ρ × Except Fault ω) × List (ρ' × Except Fault ω')),
        (∀ round ∈ rounds, (serve round.1.1).Plays round.2 round.1.2) ∧
          activity.Plays (rounds.map (·.1)) outcome ∧ exchanges = rounds.flatMap (·.2) := by
  induction activity generalizing exchanges with
  | done a =>
    constructor
    · rintro ⟨rfl, rfl⟩
      exact ⟨[], by simp, ⟨rfl, rfl⟩, rfl⟩
    · rintro ⟨rounds, _, ⟨none, rfl⟩, rfl⟩
      obtain rfl := List.map_eq_nil_iff.mp none
      exact ⟨rfl, rfl⟩
  | fail fault =>
    constructor
    · rintro ⟨rfl, rfl⟩
      exact ⟨[], by simp, ⟨rfl, rfl⟩, rfl⟩
    · rintro ⟨rounds, _, ⟨none, rfl⟩, rfl⟩
      obtain rfl := List.map_eq_nil_iff.mp none
      exact ⟨rfl, rfl⟩
  | report event rest ih => exact ih
  | request r resume ih =>
    rw [through]
    constructor
    · intro plays
      obtain ⟨fault, failed, _⟩ | ⟨reply, early, late, served, later, rfl⟩ :=
        plays_bind_iff.mp plays
      · simp at failed
      · obtain ⟨_, served, same⟩ := plays_attempt_iff.mp served
        obtain rfl := Except.ok.inj same
        obtain ⟨rounds, each, rest, rfl⟩ := (ih reply).mp later
        exact ⟨((r, reply), early) :: rounds, List.forall_mem_cons.mpr ⟨served, each⟩,
          ⟨reply, _, rfl, rest⟩, rfl⟩
    · rintro ⟨rounds, each, ⟨reply, later, split, plays⟩, rfl⟩
      obtain ⟨⟨_, early⟩, rounds, rfl, rfl, rfl⟩ := List.map_eq_cons_iff.mp split
      obtain ⟨served, each⟩ := List.forall_mem_cons.mp each
      exact plays_bind_iff.mpr (.inr ⟨reply, early, _, plays_attempt_iff.mpr ⟨_, served, rfl⟩,
        (ih reply).mpr ⟨rounds, each, plays, rfl⟩, rfl⟩)

/-- A party gives the replies of some exchanges, one after another, and is left in a state. -/
def Answers (answer : σ → ρ → Answer σ ω) : σ → List (ρ × Except Fault ω) → σ → Prop
  | source, [], target => source = target
  | source, (r, reply) :: later, target => (answer source r).reply = reply ∧
      Answers answer (answer source r).state later target

/-- What every answer keeps holds of the party after any exchanges. -/
theorem Answers.keeps (property : σ → Prop) {exchanges : List (ρ × Except Fault ω)}
    (step : ∀ state r, property state → property (answer state r).state)
    (answers : Answers answer source exchanges target) (holds : property source) :
    property target := by
  induction exchanges generalizing source with
  | nil =>
    obtain rfl := answers
    exact holds
  | cons exchange later ih => exact ih answers.2 (step source exchange.1 holds)

/-- The party that an activity is run against gives the replies of the course. -/
theorem answers_run (answer : σ → ρ → Answer σ ω) (source : σ) (activity : Interaction ρ ω α) :
    Answers answer source (activity.run answer source).exchanges
      (activity.run answer source).state := by
  induction activity generalizing source with
  | done a => exact rfl
  | fail fault => exact rfl
  | report event rest ih => exact ih source
  | request r resume ih => exact ⟨rfl, ih _ _⟩

/-- A successful activity leads from one state to the other by some exchanges. -/
theorem exists_answers_of_yields {a : α} (success : Yields answer source activity a target) :
    ∃ exchanges, Answers answer source exchanges target :=
  ⟨_, success.2 ▸ answers_run answer source activity⟩

/-- A party that gives the replies of some exchanges and then of others gives those of all. -/
theorem answers_append_iff {early late : List (ρ × Except Fault ω)} :
    Answers answer source (early ++ late) target ↔
      ∃ middle, Answers answer source early middle ∧ Answers answer middle late target := by
  induction early generalizing source with
  | nil => simp [Answers]
  | cons exchange rest ih =>
    obtain ⟨r, reply⟩ := exchange
    simp only [List.cons_append, Answers, ih]
    constructor
    · rintro ⟨replied, middle, first, second⟩
      exact ⟨middle, ⟨replied, first⟩, second⟩
    · rintro ⟨middle, ⟨replied, first⟩, second⟩
      exact ⟨replied, middle, first, second⟩

/-- The course of a sequence is that of the first part, continued. -/
theorem run_seq (activity : Interaction ρ ω α) (next : α → Interaction ρ ω β) :
    (activity >>= next).run answer source =
      (activity.run answer source).andThen fun a after => (next a).run answer after :=
  run_bind answer source activity next

/-- Work makes no request and leaves the party. -/
theorem run_liftReported (reported : Log.Reported α) :
    (liftM reported : Interaction ρ ω α).run answer source =
      ⟨reported.outcome, source, [], reported.events⟩ := by
  change (ofReported reported : Interaction ρ ω α).run answer source = _
  obtain ⟨events, given⟩ := reported
  simp only [ofReported, reportAll]
  induction events with
  | nil => cases given <;> rfl
  | cons event rest ih => rw [List.foldr_cons, run, ih]

/-- A sequence goes on from where its first part ends. -/
theorem run_seq_of_yields {a : α} {middle : σ} (first : Yields answer source activity a middle)
    (next : α → Interaction ρ ω β) : (activity >>= next).run answer source =
      { (next a).run answer middle with
        exchanges := (activity.run answer source).exchanges ++
          ((next a).run answer middle).exchanges
        events := (activity.run answer source).events ++ ((next a).run answer middle).events } := by
  obtain ⟨success, rfl⟩ := first
  rw [run_seq, Course.andThen, success]

/-- A sequence stops where its first part ends in a fault. -/
theorem run_seq_of_fault {fault : Fault}
    (failure : (activity.run answer source).outcome = .error fault)
    (next : α → Interaction ρ ω β) : (activity >>= next).run answer source =
      { activity.run answer source with outcome := .error fault } := by
  rw [run_seq, Course.andThen, failure]

/-- A sequence ends in a fault exactly if its first part does, or the second from where the first
one ends. -/
theorem seq_fails_iff {next : α → Interaction ρ ω β} {fault : Fault} :
    ((activity >>= next).run answer source).outcome = .error fault ↔
      (activity.run answer source).outcome = .error fault ∨
        ∃ a middle, Yields answer source activity a middle ∧
          ((next a).run answer middle).outcome = .error fault := by
  rw [run_seq, Course.andThen]
  cases ended : (activity.run answer source).outcome <;> simp [Yields, ended]

/-- The report of the beginning and the end of an activity does not change the course. -/
theorem run_titled (channel : Log.Channel) (level : Log.Level) (title : String)
    (activity : Interaction ρ ω α) :
    (activity.titled channel level title).run answer source =
      { activity.run answer source with
        events := .opened channel level title :: (activity.run answer source).events ++
          [.closed channel level title] } := by
  rw [titled, run]
  have ends : (activity.closing (.closed channel level title)).run answer source =
      { activity.run answer source with
        events := (activity.run answer source).events ++ [.closed channel level title] } := by
    induction activity generalizing source with
    | done a => rfl
    | fail fault => rfl
    | report event rest ih => simp [closing, run, ih]
    | request r resume ih => simp [closing, run, ih]
  rw [ends]
  rfl

end ManifestOwnership.Interaction
