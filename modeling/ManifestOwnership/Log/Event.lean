import ManifestOwnership.Value.Display

/-! # What a log tells

The events an operation reports on its way. An event is a value like any other result: it names a
channel, a level and a message, and may be about an object. Where it is shown, and in which form,
is no concern of the operation.
-/

namespace ManifestOwnership.Log

/-- The levels of events, the gravest first. -/
inductive Level where
  | fatal
  | error
  | warning
  | info
  | trace
  | debug
  | debug1
  | debug2
  | debug3
  | debug4
  deriving DecidableEq, Inhabited

namespace Level

def all : List Level :=
  [fatal, error, warning, info, trace, debug, debug1, debug2, debug3, debug4]

def name : Level → String
  | fatal => "fatal"
  | error => "error"
  | warning => "warning"
  | info => "info"
  | trace => "trace"
  | debug => "debug"
  | debug1 => "debug1"
  | debug2 => "debug2"
  | debug3 => "debug3"
  | debug4 => "debug4"

def rank : Level → Nat
  | fatal => 50
  | error => 40
  | warning => 30
  | info => 20
  | trace => 15
  | debug => 10
  | debug1 => 9
  | debug2 => 8
  | debug3 => 7
  | debug4 => 6

def ofName? (name : String) : Option Level :=
  all.find? (·.name == name)

end Level

/-- A part of the library that reports events. -/
inductive Channel where
  | references
  | webhooks
  | establishing
  | dryRun
  deriving DecidableEq, Inhabited

def Channel.name : Channel → String
  | references => "REFS"
  | webhooks => "WHOOK"
  | establishing => "ESTAB"
  | dryRun => "DRY-RUN"

/-- A report with its message, and the object and the revision it is about if it has them. -/
structure Note where
  channel : Channel
  level : Level
  message : String
  about : Option (Value × Value)
  deriving Inhabited

/-- An event: a note, or the beginning or the end of an activity that other events are part of. -/
inductive Event where
  | opened (channel : Channel) (level : Level) (title : String)
  | closed (channel : Channel) (level : Level) (title : String)
  | note (note : Note)

/-- A note that is about no object. -/
def event (channel : Channel) (level : Level) (message : String) : Event :=
  .note ⟨channel, level, message, none⟩

/-- A result together with the events reported before it was reached. -/
structure Reported (α : Type) where
  events : List Event
  outcome : Except Fault α

namespace Reported

def ofExcept {α : Type} (outcome : Except Fault α) : Reported α :=
  ⟨[], outcome⟩

def fail {α : Type} (fault : Fault) : Reported α :=
  ⟨[], .error fault⟩

/-- A report and no result. -/
def tell (events : List Event) : Reported Unit :=
  ⟨events, .ok ()⟩

/-- Goes on from a result; a fault ends the work and keeps what was reported. -/
def bind {α β : Type} (first : Reported α) (next : α → Reported β) : Reported β :=
  match first.outcome with
  | .error fault => ⟨first.events, .error fault⟩
  | .ok a =>
    let second := next a
    ⟨first.events ++ second.events, second.outcome⟩

instance : Monad Reported where
  pure a := ofExcept (.ok a)
  bind := bind

instance : MonadLift (Except Fault) Reported where
  monadLift := ofExcept

end Reported

end ManifestOwnership.Log
