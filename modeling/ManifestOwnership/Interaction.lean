import ManifestOwnership.Log.Event

/-! # Interactions

An activity that asks an outside party. An interaction is a tree: it ends in a result or a fault,
reports an event, or makes a request and goes on in a way that depends on the reply. The other side
is left open, so one interaction can be played against a store in memory, a scripted one or a
cluster, and what it may ask is a fact about the tree alone.
-/

namespace ManifestOwnership

/-- An activity that makes requests of type `ρ`, gets replies of type `ω` and results in an `α`. -/
inductive Interaction (ρ ω α : Type) where
  | done (a : α)
  | fail (fault : Fault)
  | report (event : Log.Event) (rest : Interaction ρ ω α)
  | request (r : ρ) (resume : Except Fault ω → Interaction ρ ω α)

namespace Interaction

variable {ρ ω α β : Type}

def bind : Interaction ρ ω α → (α → Interaction ρ ω β) → Interaction ρ ω β
  | done a, next => next a
  | fail fault, _ => fail fault
  | report event rest, next => report event (rest.bind next)
  | request r resume, next => request r fun reply => (resume reply).bind next

instance : Monad (Interaction ρ ω) where
  pure := done
  bind := bind

theorem bind_done (activity : Interaction ρ ω α) : activity.bind done = activity := by
  induction activity with
  | done a => rfl
  | fail fault => rfl
  | report event rest ih => simp only [bind, ih]
  | request r resume ih => simp only [bind, ih]

theorem bind_assoc {γ : Type} (activity : Interaction ρ ω α) (next : α → Interaction ρ ω β)
    (last : β → Interaction ρ ω γ) :
    (activity.bind next).bind last = activity.bind fun a => (next a).bind last := by
  induction activity with
  | done a => rfl
  | fail fault => rfl
  | report event rest ih => simp only [bind, ih]
  | request r resume ih => simp only [bind, ih]

instance : LawfulMonad (Interaction ρ ω) :=
  LawfulMonad.mk' (Interaction ρ ω) bind_done (fun _ _ => rfl) bind_assoc

def ofExcept : Except Fault α → Interaction ρ ω α
  | .ok a => done a
  | .error fault => fail fault

def reportAll (events : List Log.Event) (rest : Interaction ρ ω α) : Interaction ρ ω α :=
  events.foldr report rest

def ofReported (reported : Log.Reported α) : Interaction ρ ω α :=
  reportAll reported.events (ofExcept reported.outcome)

instance : MonadLift (Except Fault) (Interaction ρ ω) where
  monadLift := ofExcept

instance : MonadLift Log.Reported (Interaction ρ ω) where
  monadLift := ofReported

/-- Makes one request; a fault of the reply is the fault of the interaction. -/
def ask (r : ρ) : Interaction ρ ω ω :=
  request r ofExcept

/-- Makes one request and hands over the reply, a fault or not. -/
def tryAsk (r : ρ) : Interaction ρ ω (Except Fault ω) :=
  request r done

/-- An interaction whose fault is part of its result. -/
def attempt : Interaction ρ ω α → Interaction ρ ω (Except Fault α)
  | done a => done (.ok a)
  | fail fault => done (.error fault)
  | report event rest => report event rest.attempt
  | request r resume => request r fun reply => (resume reply).attempt

/-- Reports an event at the end, whether that is a result or a fault. -/
def closing (event : Log.Event) : Interaction ρ ω α → Interaction ρ ω α
  | done a => report event (done a)
  | fail fault => report event (fail fault)
  | report other rest => report other (rest.closing event)
  | request r resume => request r fun reply => (resume reply).closing event

/-- An activity whose beginning and end are reported. -/
def titled (channel : Log.Channel) (level : Log.Level) (title : String)
    (activity : Interaction ρ ω α) : Interaction ρ ω α :=
  report (.opened channel level title) (activity.closing (.closed channel level title))

/-- An interaction with another party, in place of one that this party serves by it. -/
def through {ρ' ω' : Type} (serve : ρ → Interaction ρ' ω' ω) :
    Interaction ρ ω α → Interaction ρ' ω' α
  | done a => done a
  | fail fault => fail fault
  | report event rest => report event (rest.through serve)
  | request r resume => (serve r).attempt.bind fun reply => (resume reply).through serve

/-- How a party in a state answers a request. -/
structure Answer (σ ω : Type) where
  state : σ
  reply : Except Fault ω
  events : List Log.Event

/-- What an interaction against a party came to: its outcome, the state it leaves, the requests
with their replies, and all events in order. -/
structure Course (σ ρ ω α : Type) where
  outcome : Except Fault α
  state : σ
  exchanges : List (ρ × Except Fault ω)
  events : List Log.Event

/-- Plays an interaction against a party. -/
def run {σ : Type} (answer : σ → ρ → Answer σ ω) : σ → Interaction ρ ω α → Course σ ρ ω α
  | state, done a => ⟨.ok a, state, [], []⟩
  | state, fail fault => ⟨.error fault, state, [], []⟩
  | state, report event rest =>
    let course := run answer state rest
    { course with events := event :: course.events }
  | state, request r resume =>
    let answered := answer state r
    let course := run answer answered.state (resume answered.reply)
    { course with
      exchanges := (r, answered.reply) :: course.exchanges
      events := answered.events ++ course.events }

/-- The course of an interaction that goes on after the first part of it. -/
def Course.andThen {σ : Type} (course : Course σ ρ ω α) (next : α → σ → Course σ ρ ω β) :
    Course σ ρ ω β :=
  match course.outcome with
  | .ok a =>
    let later := next a course.state
    { later with
      exchanges := course.exchanges ++ later.exchanges
      events := course.events ++ later.events }
  | .error fault => { course with outcome := .error fault }

/-- An interaction is played part by part: the second part starts in the state that the first one
leaves, and there is none if the first one ends in a fault. -/
theorem run_bind {σ : Type} (answer : σ → ρ → Answer σ ω) (state : σ)
    (activity : Interaction ρ ω α) (next : α → Interaction ρ ω β) :
    run answer state (activity.bind next) =
      (run answer state activity).andThen fun a after => run answer after (next a) := by
  induction activity generalizing state with
  | done a => rfl
  | fail fault => rfl
  | report event rest ih =>
    simp only [bind, run, ih, Course.andThen]
    split <;> rfl
  | request r resume ih =>
    simp only [bind, run, ih, Course.andThen]
    split <;> simp

end Interaction

end ManifestOwnership
