import ManifestOwnership.Text.Quoted

/-! # Faults

Why an operation stopped. A fault is a cause with what is needed to tell it: a value that does not
offer what is asked of it, a text that is no encoded certificate, a setting that breaks its rule, a
problem this library reports itself, or a failure of the cluster behind a store. Some causes carry
a message and others none; `Fault.message?` is the one place where the words are chosen.
-/

namespace ManifestOwnership

/-- The problems this library reports under names of its own, the first five being families that
the others belong to. -/
inductive Problem where
  | general
  | fatal
  | expected
  | configuration
  | cluster
  | conversionWithoutAuthority
  | secretUnreadable
  | precondition
  | secretWithoutBundle
  | objectMissing
  | objectExists
  | objectConflict
  deriving DecidableEq, Inhabited

namespace Problem

/-- A problem followed by the families it belongs to, the nearest first. -/
def lineage : Problem → List Problem
  | general => [general]
  | fatal => [fatal, general]
  | expected => [expected, general]
  | configuration => [configuration, fatal, general]
  | cluster => [cluster, fatal, general]
  | conversionWithoutAuthority => [conversionWithoutAuthority, configuration, fatal, general]
  | secretUnreadable => [secretUnreadable, cluster, fatal, general]
  | precondition => [precondition, expected, general]
  | secretWithoutBundle => [secretWithoutBundle, precondition, expected, general]
  | objectMissing => [objectMissing, expected, general]
  | objectExists => [objectExists, expected, general]
  | objectConflict => [objectConflict, expected, general]

/-- Whether a reconciling controller should treat a problem as permanent. -/
def isFatal (problem : Problem) : Bool :=
  problem.lineage.contains fatal

/-- What is said about a problem when nothing else is. -/
def defaultMessage : Problem → String
  | conversionWithoutAuthority => "conversion requested but no webhook CA configured"
  | secretUnreadable => "failed to get webhook TLS secret"
  | secretWithoutBundle => "webhook secret has no CA bundle"
  | _ => ""

end Problem

/-- How the cluster refuses a request. All refusals are told apart by kind; a status says nothing
about the kind. -/
inductive Refusal where
  | notFound
  | conflict
  | forbidden
  | unprocessable
  | internal
  | gone
  | other
  deriving DecidableEq, Inhabited

/-- Why an operation stopped. -/
inductive Fault where
  /-- A value does not offer the operation asked of it. -/
  | lacksOperation
  /-- A value is not of a kind that an operation takes. -/
  | wrongType
  /-- A value is of the right kind and still not acceptable. -/
  | wrongValue
  /-- A named value that is required is absent. -/
  | missingEntry
  /-- A number is beyond what can be represented. -/
  | outOfRange
  /-- A position is past the end of a list or a text. -/
  | pastEnd
  /-- A text would be longer than there is room for. -/
  | tooLong
  /-- An instant is beyond the calendar of the system. -/
  | beyondCalendar
  /-- A path leads through a value that is not an object; the path up to that value. -/
  | brokenPath (path : List String)
  /-- An encoded text holds a character outside ASCII. -/
  | notAscii
  /-- An encoded text ends inside a group of four. -/
  | incompleteGroup
  /-- An encoded text leaves a single symbol over; the count of all symbols. -/
  | strayCharacter (count : Nat)
  /-- No setting has the name. -/
  | unknownSetting (name : String)
  /-- Settings break their rules; their names. -/
  | invalidSettings (names : List String)
  /-- A rule does not say which type it is for. -/
  | untypedRule
  /-- A rule offers a choice among no values. -/
  | emptyChoice
  /-- A problem of this library. -/
  | problem (kind : Problem) (message : String)
  /-- A problem of this library that another fault caused. -/
  | consequence (kind : Problem) (message : String) (cause : Fault)
  /-- The webhook TLS secret could not be read. -/
  | secretUnreadable (message : String) (cause : Fault)
  /-- The cluster refuses a request. -/
  | refused (kind : Refusal) (status : Int) (reason : String)
  /-- The cluster serves no such kind. -/
  | kindMissing (message : String)
  /-- The cluster serves several such kinds. -/
  | kindAmbiguous (message : String)
  /-- The process does not run inside a cluster. -/
  | outsideCluster (message : String)
  /-- Any other failure behind a store, by its name and with what it says, if anything. -/
  | external (name : String) (message : Option String)
  deriving DecidableEq, Inhabited

namespace Fault

def refusalText (status : Int) (reason : String) : String :=
  toString status ++ "\nReason: " ++ reason

/-- What is said about a fault; `none` for the faults that are known by their kind alone. -/
def message? : Fault → Option String
  | lacksOperation | wrongType | wrongValue | missingEntry | outOfRange | pastEnd | tooLong
  | beyondCalendar => none
  | brokenPath path => some ("Intermediate key " ++ ".".intercalate path ++ " is not a dict")
  | notAscii => some "string argument should contain only ASCII characters"
  | incompleteGroup => some "Incorrect padding"
  | strayCharacter count =>
    some ("Invalid base64-encoded string: number of data characters (" ++ toString count ++
      ") cannot be 1 more than a multiple of 4")
  | unknownSetting name => some ("No such config attribute " ++ name)
  | invalidSettings names =>
    some ("Library configuration found invalid values: [" ++
      ", ".intercalate (names.map Text.quoted) ++ "]")
  | untypedRule => some "All parameters must have a 'type'"
  | emptyChoice => some "Must specify at least one enum value!"
  | problem _ message => some message
  | consequence _ message _ => some message
  | secretUnreadable message cause => cause.message?.map fun text => message ++ ": " ++ text
  | refused _ status reason => some (refusalText status reason)
  | kindMissing message => some message
  | kindAmbiguous message => some message
  | outsideCluster message => some message
  | external _ message => message

/-- The problem of this library that a fault reports, if it is one. -/
def problem? : Fault → Option Problem
  | problem kind _ => some kind
  | consequence kind _ _ => some kind
  | secretUnreadable _ _ => some .secretUnreadable
  | _ => none

def cause? : Fault → Option Fault
  | consequence _ _ cause => some cause
  | secretUnreadable _ cause => some cause
  | _ => none

def isObjectMissing (fault : Fault) : Bool :=
  fault.problem? == some .objectMissing

/-- Whether a fault says that a kind could not be looked up to exactly one. -/
def isLookup : Fault → Bool
  | kindMissing _ => true
  | kindAmbiguous _ => true
  | _ => false

end Fault

/-- The fault that reports a problem, with the default message unless there is one of its own. The
family of all problems says nothing of being permanent and cannot be reported itself. An unreadable
secret is reported with its cause, and no other problem takes one. -/
def Problem.fault (kind : Problem) (message : Option String) (cause : Option Fault) :
    Except Fault Fault :=
  let said := message.getD kind.defaultMessage
  match kind, cause with
  | general, _ => .error .wrongType
  | secretUnreadable, none => .error .wrongType
  | secretUnreadable, some cause => .ok (.secretUnreadable said cause)
  | kind, none => .ok (.problem kind said)
  | _, some _ => .error .wrongType

/-- Nothing if a condition holds, and otherwise a problem of the given kind. -/
def require (kind : Problem) (condition : Bool) (message : String) : Except Fault Unit :=
  if condition then .ok () else .error (.problem kind message)

end ManifestOwnership
