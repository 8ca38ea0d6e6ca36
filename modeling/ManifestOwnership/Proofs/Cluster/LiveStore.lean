import ManifestOwnership.Proofs.Play
import ManifestOwnership.Proofs.Manifest.Metadata
import ManifestOwnership.Cluster.LiveStore

/-! # What a live store asks and tells

How a live store serves its requests, whatever the cluster replies. The kind is looked up once or
twice, and one call on the resource follows at most. `Serves` is the relation between a request to
the store, what is asked of the cluster for it, and what the store makes of the replies.
`Translates` says which faults of the cluster come out changed: only when something is read, and
only those by which the cluster shows that it is not there. The messages of these reports are left
open.
-/

namespace ManifestOwnership.Cluster

open Interaction

abbrev Exchange := Request × Except Fault Value

/-- The lookups of a kind, with what they come to: by its name, and as a short name if that does
not find exactly one. -/
inductive LooksUp (apiVersion kind : Value) : List Exchange → Except Fault Value → Prop where
  | named {reply : Except Fault Value}
      (settled : ∀ fault, reply = .error fault → fault.isLookup = false) :
      LooksUp apiVersion kind [(.findKind apiVersion kind, reply)] reply
  | short {fault : Fault} (failed : fault.isLookup = true) (reply : Except Fault Value) :
      LooksUp apiVersion kind
        [(.findKind apiVersion kind, .error fault), (.findShortName apiVersion kind, reply)] reply

/-- An exchange by which the cluster shows that something is not there: the kind is not found as a
short name either, or the resource has no such object. -/
def Denies : Exchange → Prop
  | (.findShortName _ _, .error fault) => fault.isLookup = true
  | (.get _ _ _ _, .error fault) => ∃ status reason, fault = .refused .notFound status reason
  | _ => False

namespace LooksUp

variable {apiVersion kind : Value} {lookups : List Exchange} {found : Except Fault Value}

theorem isLookup (looked : LooksUp apiVersion kind lookups found) :
    ∀ exchange ∈ lookups, exchange.1.isLookup = true := by
  cases looked <;> simp [Request.isLookup]

/-- The last lookup tells what is found, and its fault is a denial only if it is of a lookup. A
lookup before it has failed. -/
theorem exists_last (looked : LooksUp apiVersion kind lookups found) :
    ∃ asked, lookups.getLast? = some (asked, found) ∧
      (Denies (asked, found) ↔ ∃ fault, found = .error fault ∧ fault.isLookup = true) ∧
      ∀ exchange ∈ lookups, exchange = (asked, found) ∨
        ∃ fault, exchange = (.findKind apiVersion kind, .error fault) ∧ fault.isLookup = true := by
  cases looked with
  | named settled =>
    refine ⟨_, rfl, ?_, by simp⟩
    cases found with
    | ok resource => simp [Denies]
    | error fault => simp [Denies, settled fault rfl]
  | short failed reply =>
    refine ⟨_, rfl, ?_, by simp [failed]⟩
    cases found <;> simp [Denies]

/-- The second lookup follows the first one exactly if that failed as a lookup. -/
theorem retries (looked : LooksUp apiVersion kind lookups found) :
    ∃ reply retry, lookups = (.findKind apiVersion kind, reply) :: retry ∧
      ((∃ fault, reply = .error fault ∧ fault.isLookup = true) ∧
          (∃ again, retry = [(.findShortName apiVersion kind, again)]) ∨
        (∀ fault, reply = .error fault → fault.isLookup = false) ∧ retry = []) := by
  cases looked with
  | named settled => exact ⟨_, _, rfl, .inr ⟨settled, rfl⟩⟩
  | short failed reply => exact ⟨_, _, rfl, .inl ⟨⟨_, rfl, failed⟩, _, rfl⟩⟩

end LooksUp

namespace LiveStore

variable {store : LiveStore} {request : Store.Request} {exchanges : List Exchange}
  {outcome : Except Fault Value} {apiVersion kind : Value}

/-- The version and the kind of the object that a request to the store is about. -/
def Concerns (apiVersion kind : Value) : Store.Request → Prop
  | .get apiVersion' kind' _ _ => apiVersion' = apiVersion ∧ kind' = kind
  | .create definition | .update definition =>
    definition.field "apiVersion" = .ok apiVersion ∧ definition.field "kind" = .ok kind

/-- The lookups for a request to the store, with what they come to. -/
def Resolves (request : Store.Request) (lookups : List Exchange) (found : Except Fault Value) :
    Prop :=
  ∃ apiVersion kind, Concerns apiVersion kind request ∧ LooksUp apiVersion kind lookups found

/-- The call on a resource that a request to the store comes to. A definition is its body as it is,
a namespace goes with it only if it counts as given, and a timeout only if it is not null. -/
inductive Calls (store : LiveStore) (resource : Value) : Store.Request → Request → Prop where
  | get (apiVersion kind name scope : Value) :
      Calls store resource (.get apiVersion kind name scope)
        (.get resource name (if scope.truthy then scope else .null)
          (if store.timeout.isNull then none else some store.timeout))
  | create {definition metadata scope : Value}
      (part : definition.fieldOrEmpty "metadata" = .ok metadata)
      (within : metadata.field "namespace" = .ok scope) :
      Calls store resource (.create definition)
        (.create resource definition (if scope.truthy then scope else .null)
          (if store.timeout.isNull then none else some store.timeout))
  | replace {definition metadata scope name : Value}
      (part : definition.fieldOrEmpty "metadata" = .ok metadata)
      (within : metadata.field "namespace" = .ok scope)
      (named : metadata.field "name" = .ok name) :
      Calls store resource (.update definition)
        (.replace resource definition name (if scope.truthy then scope else .null)
          (if store.timeout.isNull then none else some store.timeout))

/-- A definition to write that has no fields, so no version, kind and metadata either. -/
def Unreadable : Store.Request → Prop
  | .get _ _ _ _ => False
  | .create definition | .update definition => definition.isObject = false

/-- A definition to write whose metadata has no fields, so no namespace and no name either. -/
def Unplaced : Store.Request → Prop
  | .get _ _ _ _ => False
  | .create definition | .update definition =>
    ∃ metadata, definition.fieldOrEmpty "metadata" = .ok metadata ∧ metadata.isObject = false

/-- What a request to the store asks of the cluster, and what it comes to. -/
inductive Serves (store : LiveStore) (request : Store.Request) :
    List Exchange → Except Fault Value → Prop where
  | unreadable (unread : Unreadable request) : Serves store request [] (.error .lacksOperation)
  | unfound {lookups : List Exchange} {fault : Fault}
      (looked : Resolves request lookups (.error fault))
      (passes : request.isWrite = true ∨ fault.isLookup = false) :
      Serves store request lookups (.error fault)
  | unserved {lookups : List Exchange} {fault : Fault}
      (looked : Resolves request lookups (.error fault)) (reads : request.isWrite = false)
      (failed : fault.isLookup = true) (message : String) :
      Serves store request lookups (.error (missing message fault))
  | unplaced {resource : Value} {lookups : List Exchange}
      (looked : Resolves request lookups (.ok resource)) (unplaced : Unplaced request) :
      Serves store request lookups (.error .lacksOperation)
  | called {resource : Value} {lookups : List Exchange} {call : Request}
      (looked : Resolves request lookups (.ok resource))
      (calls : store.Calls resource request call) (reply : Except Fault Value)
      (passes : ¬ Denies (call, reply)) :
      Serves store request (lookups ++ [(call, reply)]) reply
  | absent {resource : Value} {lookups : List Exchange} {call : Request} {fault : Fault}
      (looked : Resolves request lookups (.ok resource))
      (calls : store.Calls resource request call) (denied : Denies (call, .error fault))
      (message : String) :
      Serves store request (lookups ++ [(call, .error fault)]) (.error (missing message fault))

theorem plays_find_iff :
    (find apiVersion kind).Plays exchanges outcome ↔ LooksUp apiVersion kind exchanges outcome := by
  rw [find, plays_request_iff]
  constructor
  · rintro ⟨reply, later, rfl, plays⟩
    cases reply with
    | ok resource =>
      obtain ⟨rfl, rfl⟩ := plays
      exact .named (by simp)
    | error fault =>
      dsimp only at plays
      split at plays
      · next failed =>
        obtain rfl := plays_ask_iff.mp plays
        exact .short failed outcome
      · next other =>
        obtain ⟨rfl, rfl⟩ := plays
        exact .named (by simpa using other)
  · intro looked
    cases looked with
    | named settled =>
      refine ⟨outcome, [], rfl, ?_⟩
      cases outcome with
      | ok resource => exact ⟨rfl, rfl⟩
      | error fault => simp [settled fault rfl]
    | short failed =>
      refine ⟨_, _, rfl, ?_⟩
      simp only [failed, if_true]
      exact plays_ask_iff.mpr rfl

/-- An object is read from the resource found. -/
theorem serves_of_plays_get {name scope : Value}
    (plays : (store.get apiVersion kind name scope).Plays exchanges outcome) :
    store.Serves (.get apiVersion kind name scope) exchanges outcome := by
  rw [get] at plays
  obtain ⟨_, failed, _⟩ | ⟨found, lookups, rest, looked, read, rfl⟩ := plays_bind_iff.mp plays
  · simp at failed
  obtain ⟨_, looked, same⟩ := plays_attempt_iff.mp looked
  obtain rfl := Except.ok.inj same
  have looked : Resolves (.get apiVersion kind name scope) lookups found :=
    ⟨apiVersion, kind, ⟨rfl, rfl⟩, plays_find_iff.mp looked⟩
  cases found with
  | error fault =>
    dsimp only at read
    split at read
    · next failed =>
      obtain ⟨rfl, rfl⟩ := read
      rw [List.append_nil]
      exact .unserved looked rfl failed _
    · next other =>
      obtain ⟨rfl, rfl⟩ := read
      rw [List.append_nil]
      exact .unfound looked (.inr (by simpa using other))
  | ok resource =>
    obtain ⟨_, failed, _⟩ | ⟨reply, _, later, asked, told, rfl⟩ := plays_bind_iff.mp read
    · simp at failed
    obtain ⟨_, rfl, same⟩ := plays_tryAsk_iff.mp asked
    obtain rfl := Except.ok.inj same
    have calls : Calls store resource (.get apiVersion kind name scope) _ :=
      .get apiVersion kind name scope
    split at told
    · next object =>
      obtain ⟨rfl, rfl⟩ := told
      exact .called looked calls (.ok object) (by simp [Denies])
    · next status reason =>
      obtain ⟨rfl, rfl⟩ := told
      exact .absent looked calls ⟨status, reason, rfl⟩ _
    · next fault other =>
      obtain ⟨rfl, rfl⟩ := told
      refine .called looked calls (.error fault) ?_
      rintro ⟨status, reason, rfl⟩
      exact other status reason rfl

/-- What a write needs is the resource, which is looked up, and the name and the namespace, which
are in the metadata of the definition. -/
theorem plays_resolve_cases {definition : Value} {outcome : Except Fault (Value × Value × Value)}
    (plays : (resolve definition).Plays exchanges outcome) :
    (definition.isObject = false ∧ exchanges = [] ∧ outcome = .error .lacksOperation) ∨
      ∃ apiVersion kind found, definition.field "apiVersion" = .ok apiVersion ∧
        definition.field "kind" = .ok kind ∧ LooksUp apiVersion kind exchanges found ∧
        ((∃ fault, found = .error fault ∧ outcome = .error fault) ∨
          ∃ resource metadata, found = .ok resource ∧
            definition.fieldOrEmpty "metadata" = .ok metadata ∧
            (metadata.isObject = false ∧ outcome = .error .lacksOperation ∨
              ∃ scope name, metadata.field "namespace" = .ok scope ∧
                metadata.field "name" = .ok name ∧
                outcome = .ok (resource, scopeOf scope, name))) := by
  obtain ⟨fault, unread, rfl, rfl⟩ | ⟨metadata, part, plays⟩ := plays_lift_bind_iff.mp plays
  · obtain ⟨fieldless, rfl⟩ := Value.field_eq_error_iff.mp (map_eq_error_iff.mp unread)
    exact .inl ⟨fieldless, rfl, rfl⟩
  obtain ⟨fault, unread, rfl, rfl⟩ | ⟨kind, kinded, plays⟩ := plays_lift_bind_iff.mp plays
  · obtain ⟨fieldless, rfl⟩ := Value.field_eq_error_iff.mp unread
    exact .inl ⟨fieldless, rfl, rfl⟩
  obtain ⟨fault, unread, rfl, rfl⟩ | ⟨apiVersion, versioned, plays⟩ := plays_lift_bind_iff.mp plays
  · obtain ⟨fieldless, rfl⟩ := Value.field_eq_error_iff.mp unread
    exact .inl ⟨fieldless, rfl, rfl⟩
  obtain ⟨fault, looked, rfl⟩ | ⟨resource, lookups, rest, looked, placed, rfl⟩ :=
    plays_bind_iff.mp plays
  · exact .inr ⟨apiVersion, kind, _, versioned, kinded, plays_find_iff.mp looked,
      .inl ⟨fault, rfl, rfl⟩⟩
  replace looked := plays_find_iff.mp looked
  have settled : rest = [] ∧ (metadata.isObject = false ∧ outcome = .error .lacksOperation ∨
      ∃ scope name, metadata.field "namespace" = .ok scope ∧ metadata.field "name" = .ok name ∧
        outcome = .ok (resource, scopeOf scope, name)) := by
    obtain ⟨fault, unread, rfl, rfl⟩ | ⟨scope, within, placed⟩ := plays_lift_bind_iff.mp placed
    · obtain ⟨fieldless, rfl⟩ := Value.field_eq_error_iff.mp unread
      exact ⟨rfl, .inl ⟨fieldless, rfl⟩⟩
    obtain ⟨fault, unread, rfl, rfl⟩ | ⟨name, named, rfl, rfl⟩ := plays_lift_bind_iff.mp placed
    · obtain ⟨fieldless, rfl⟩ := Value.field_eq_error_iff.mp unread
      exact ⟨rfl, .inl ⟨fieldless, rfl⟩⟩
    · exact ⟨rfl, .inr ⟨scope, name, within, named, rfl⟩⟩
  obtain ⟨rfl, settled⟩ := settled
  rw [List.append_nil]
  exact .inr ⟨apiVersion, kind, _, versioned, kinded, looked,
    .inr ⟨resource, metadata, rfl, part, settled⟩⟩

private theorem serves_of_plays_write {definition : Value} {call : Value × Value × Value → Request}
    (write : request = .create definition ∨ request = .update definition)
    (calls : ∀ resource metadata scope name,
      definition.fieldOrEmpty "metadata" = .ok metadata → metadata.field "namespace" = .ok scope →
      metadata.field "name" = .ok name →
      store.Calls resource request (call (resource, scopeOf scope, name)))
    (passes : ∀ place reply, ¬ Denies (call place, reply))
    (plays : (resolve definition >>= fun place => ask (call place) :
      Interaction Request Value Value).Plays exchanges outcome) :
    store.Serves request exchanges outcome := by
  have concerns {apiVersion kind : Value}
      (versioned : definition.field "apiVersion" = .ok apiVersion)
      (kinded : definition.field "kind" = .ok kind) : Concerns apiVersion kind request := by
    obtain rfl | rfl := write <;> exact ⟨versioned, kinded⟩
  have isWrite : request.isWrite = true := by obtain rfl | rfl := write <;> rfl
  obtain ⟨fault, unresolved, rfl⟩ | ⟨place, lookups, rest, resolved, asked, rfl⟩ :=
    plays_bind_iff.mp plays
  · obtain ⟨unread, rfl, same⟩ | ⟨_, _, _, versioned, kinded, looked, ⟨fault', rfl, same⟩ |
      ⟨resource, metadata, rfl, part, ⟨unread, same⟩ | ⟨_, _, _, _, same⟩⟩⟩ :=
        plays_resolve_cases unresolved
    · obtain rfl := Except.error.inj same
      refine .unreadable ?_
      obtain rfl | rfl := write <;> exact unread
    · obtain rfl := Except.error.inj same
      exact .unfound ⟨_, _, concerns versioned kinded, looked⟩ (.inl isWrite)
    · obtain rfl := Except.error.inj same
      refine .unplaced ⟨_, _, concerns versioned kinded, looked⟩ ?_
      obtain rfl | rfl := write <;> exact ⟨metadata, part, unread⟩
    · contradiction
  · obtain ⟨_, _, same⟩ | ⟨_, _, _, versioned, kinded, looked, ⟨_, _, same⟩ |
      ⟨resource, metadata, rfl, part, ⟨_, same⟩ | ⟨scope, name, within, named, same⟩⟩⟩ :=
        plays_resolve_cases resolved
    · contradiction
    · contradiction
    · contradiction
    · obtain rfl := Except.ok.inj same
      obtain rfl := plays_ask_iff.mp asked
      exact .called ⟨_, _, concerns versioned kinded, looked⟩
        (calls resource metadata scope name part within named) outcome (passes _ _)

theorem serves_of_plays (plays : (store.serve request).Plays exchanges outcome) :
    store.Serves request exchanges outcome := by
  cases request with
  | get apiVersion kind name scope => exact serves_of_plays_get plays
  | create definition =>
    exact serves_of_plays_write (.inl rfl) (fun _ _ _ _ part within _ => .create part within)
      (by simp [Denies]) plays
  | update definition =>
    exact serves_of_plays_write (.inr rfl)
      (fun _ _ _ _ part within named => .replace part within named) (by simp [Denies]) plays

/-- An outcome that reports a missing object, in words that no reply had used before. -/
def ReportsMissing (exchanges : List Exchange) (outcome : Except Fault Value) : Prop :=
  ∃ fault, outcome = .error fault ∧ fault.isObjectMissing = true ∧
    ∀ exchange ∈ exchanges, exchange.2 ≠ .error fault

/-- A definition with which the store does not get as far as a call: it has no fields, which shows
before anything is asked, or its metadata has none, which shows once the resource is found. -/
def Stuck (request : Store.Request) (exchanges : List Exchange) : Prop :=
  (Unreadable request ∧ exchanges = []) ∨
    (Unplaced request ∧ ∃ asked resource, exchanges.getLast? = some (asked, .ok resource) ∧
      asked.isLookup = true)

/-- What a store asks of the cluster to serve a request, and what it makes of the replies. -/
structure Translates (store : LiveStore) (request : Store.Request) (exchanges : List Exchange)
    (outcome : Except Fault Value) : Prop where
  /-- The kind is looked up first, and once more, as a short name, exactly if it is not found or not
  the only one. Only for a definition without fields nothing is asked. -/
  looksUp : (Unreadable request ∧ exchanges = [] ∧ outcome = .error .lacksOperation) ∨
    ∃ apiVersion kind reply retry calls, Concerns apiVersion kind request ∧
      exchanges = (.findKind apiVersion kind, reply) :: (retry ++ calls) ∧
      ((∃ fault, reply = .error fault ∧ fault.isLookup = true) ∧
          (∃ again, retry = [(.findShortName apiVersion kind, again)]) ∨
        (∀ fault, reply = .error fault → fault.isLookup = false) ∧ retry = []) ∧
      ∀ call ∈ calls, call.1.isLookup = false
  /-- A resource that is found is called, unless the metadata of the definition has no fields. -/
  proceeds : ∀ asked resource, exchanges.getLast? = some (asked, .ok resource) →
    asked.isLookup = true → Unplaced request ∧ outcome = .error .lacksOperation
  /-- A call is the one that goes with the request, on the resource that the lookup right before it
  has found. -/
  calls : ∀ exchange ∈ exchanges, exchange.1.isLookup = false →
    ∃ front asked resource, exchanges = front ++ [(asked, .ok resource), exchange] ∧
      asked.isLookup = true ∧ store.Calls resource request exchange.1
  /-- There is one call on a resource at most. -/
  single : exchanges.countP (fun exchange => !exchange.1.isLookup) ≤ 1
  /-- The store says that an object is missing exactly if it was read and is shown not to be there
  by the last reply. -/
  reports : ReportsMissing exchanges outcome ↔ request.isWrite = false ∧
    ∃ exchange, exchanges.getLast? = some exchange ∧ Denies exchange
  /-- That reply is the cause of the report. -/
  causes : ∀ fault, outcome = .error fault → fault.isObjectMissing = true →
    (∀ exchange ∈ exchanges, exchange.2 ≠ .error fault) →
      ∃ asked cause, exchanges.getLast? = some (asked, .error cause) ∧ fault.cause? = some cause
  /-- Every other fault of the cluster reaches the caller as it is. -/
  relays : ∀ exchange ∈ exchanges, ∀ fault, exchange.2 = .error fault →
    outcome = .error fault ∨ (request.isWrite = false ∧ Denies exchange) ∨
      fault.isLookup = true ∧ ∃ apiVersion kind, exchange.1 = .findKind apiVersion kind
  /-- A fault that is neither a report nor the last reply is that of a definition that the store
  cannot go on with. -/
  raises : ∀ fault, outcome = .error fault → ReportsMissing exchanges outcome ∨
    (∃ asked, exchanges.getLast? = some (asked, .error fault)) ∨
      fault = .lacksOperation ∧ Stuck request exchanges
  /-- A result is what a call on the resource replied. -/
  returns : ∀ object, outcome = .ok object → ∃ call, exchanges.getLast? = some (call, .ok object) ∧
    call.isLookup = false

theorem Calls.isLookup {resource : Value} {call : Request}
    (calls : store.Calls resource request call) : call.isLookup = false := by
  cases calls <;> rfl

/-- Only a call that reads can be denied. -/
theorem Calls.reads {resource : Value} {call : Request} {reply : Except Fault Value}
    (calls : store.Calls resource request call) (denied : Denies (call, reply)) :
    request.isWrite = false := by
  cases calls with
  | get => rfl
  | create => simp [Denies] at denied
  | replace => simp [Denies] at denied

theorem Stuck.isWrite (stuck : Stuck request exchanges) : request.isWrite = true := by
  cases request with
  | get => simp [Stuck, Unreadable, Unplaced] at stuck
  | create => rfl
  | update => rfl

/-- What a denial replies is a fault of the cluster, and no report. -/
theorem ne_missing_of_denies {exchange : Exchange} {message : String} {cause : Fault}
    (denied : Denies exchange) : exchange.2 ≠ .error (missing message cause) := by
  obtain ⟨asked, reply⟩ := exchange
  rintro rfl
  cases asked <;> simp [Denies, missing, Fault.isLookup] at denied

/-- Lookups reply a report only if that is what they find. -/
theorem Resolves.ne_missing {lookups : List Exchange} {found : Except Fault Value}
    (looked : Resolves request lookups found) {message : String} {cause : Fault}
    (other : found ≠ .error (missing message cause)) :
    ∀ exchange ∈ lookups, exchange.2 ≠ .error (missing message cause) := by
  obtain ⟨_, _, _, looked⟩ := looked
  obtain ⟨asked, _, _, each⟩ := looked.exists_last
  intro exchange member same
  obtain rfl | ⟨fault, rfl, failed⟩ := each exchange member
  · exact other same
  · obtain rfl := Except.error.inj same
    simp [missing, Fault.isLookup] at failed

/-- A fault in reply to a lookup is what is found, unless another lookup follows. -/
theorem Resolves.relays {lookups : List Exchange} {found : Except Fault Value}
    (looked : Resolves request lookups found) : ∀ exchange ∈ lookups, ∀ fault,
      exchange.2 = .error fault →
        found = .error fault ∧ (fault.isLookup = true → Denies exchange) ∨
          fault.isLookup = true ∧ ∃ apiVersion kind, exchange.1 = .findKind apiVersion kind := by
  obtain ⟨apiVersion, kind, _, looked⟩ := looked
  obtain ⟨asked, _, denies, each⟩ := looked.exists_last
  intro exchange member fault failed
  obtain rfl | ⟨fault', rfl, lookup⟩ := each exchange member
  · exact .inl ⟨failed, fun lookup => denies.mpr ⟨fault, failed, lookup⟩⟩
  · obtain rfl := Except.error.inj failed
    exact .inr ⟨lookup, apiVersion, kind, rfl⟩

namespace Serves

/-- The lookups come first, and one call at most follows them, on the resource that they find. -/
theorem split (serves : store.Serves request exchanges outcome) :
    (Unreadable request ∧ exchanges = [] ∧ outcome = .error .lacksOperation) ∨
      ∃ lookups found calls, Resolves request lookups found ∧ exchanges = lookups ++ calls ∧
        (calls = [] ∨ ∃ resource call reply, found = .ok resource ∧ calls = [(call, reply)] ∧
          store.Calls resource request call) := by
  cases serves with
  | unreadable unread => exact .inl ⟨unread, rfl, rfl⟩
  | unfound looked => exact .inr ⟨_, _, [], looked, by simp, .inl rfl⟩
  | unserved looked => exact .inr ⟨_, _, [], looked, by simp, .inl rfl⟩
  | unplaced looked => exact .inr ⟨_, _, [], looked, by simp, .inl rfl⟩
  | called looked calls => exact .inr ⟨_, _, _, looked, rfl, .inr ⟨_, _, _, rfl, rfl, calls⟩⟩
  | absent looked calls => exact .inr ⟨_, _, _, looked, rfl, .inr ⟨_, _, _, rfl, rfl, calls⟩⟩

theorem looksUp (serves : store.Serves request exchanges outcome) :
    (Unreadable request ∧ exchanges = [] ∧ outcome = .error .lacksOperation) ∨
      ∃ apiVersion kind reply retry calls, Concerns apiVersion kind request ∧
        exchanges = (.findKind apiVersion kind, reply) :: (retry ++ calls) ∧
        ((∃ fault, reply = .error fault ∧ fault.isLookup = true) ∧
            (∃ again, retry = [(.findShortName apiVersion kind, again)]) ∨
          (∀ fault, reply = .error fault → fault.isLookup = false) ∧ retry = []) ∧
        ∀ call ∈ calls, call.1.isLookup = false := by
  obtain unread | ⟨lookups, found, calls, ⟨apiVersion, kind, concerns, looked⟩, rfl, shape⟩ :=
    serves.split
  · exact .inl unread
  · obtain ⟨reply, retry, rfl, retries⟩ := looked.retries
    refine .inr ⟨apiVersion, kind, reply, retry, calls, concerns, rfl, retries, ?_⟩
    obtain rfl | ⟨resource, call, reply, _, rfl, calls⟩ := shape
    · simp
    · simp [calls.isLookup]

theorem single (serves : store.Serves request exchanges outcome) :
    exchanges.countP (fun exchange => !exchange.1.isLookup) ≤ 1 := by
  obtain ⟨_, rfl, _⟩ | ⟨lookups, found, calls, ⟨_, _, _, looked⟩, rfl, shape⟩ := serves.split
  · simp
  · have none : lookups.countP (fun exchange => !exchange.1.isLookup) = 0 := by
      rw [List.countP_eq_zero]
      intro exchange member
      simp [looked.isLookup exchange member]
    rw [List.countP_append, none]
    obtain rfl | ⟨_, _, _, _, rfl, calls⟩ := shape
    · simp
    · simp [calls.isLookup]

theorem calls (serves : store.Serves request exchanges outcome) :
    ∀ exchange ∈ exchanges, exchange.1.isLookup = false →
      ∃ front asked resource, exchanges = front ++ [(asked, .ok resource), exchange] ∧
        asked.isLookup = true ∧ store.Calls resource request exchange.1 := by
  obtain ⟨_, rfl, _⟩ | ⟨lookups, found, calls, ⟨_, _, _, looked⟩, rfl, shape⟩ := serves.split
  · simp
  · intro exchange member other
    obtain early | late := List.mem_append.mp member
    · simp [looked.isLookup exchange early] at other
    · obtain rfl | ⟨resource, call, reply, rfl, rfl, calls⟩ := shape
      · simp at late
      · obtain rfl := List.mem_singleton.mp late
        obtain ⟨asked, last, _⟩ := looked.exists_last
        obtain ⟨front, rfl⟩ := List.getLast?_eq_some_iff.mp last
        exact ⟨front, asked, resource, by simp, looked.isLookup (asked, .ok resource) (by simp),
          calls⟩

/-- The store reports a missing object if the last reply to a read is a denial, and otherwise tells
the last reply as it is, unless it cannot go on with the definition of an object to write. -/
theorem told (serves : store.Serves request exchanges outcome) :
    (request.isWrite = false ∧ ∃ asked message cause,
        exchanges.getLast? = some (asked, .error cause) ∧ Denies (asked, .error cause) ∧
        outcome = .error (missing message cause) ∧ ∀ exchange ∈ exchanges, exchange.2 ≠ outcome) ∨
      (Stuck request exchanges ∧ outcome = .error .lacksOperation) ∨
      ∃ asked, exchanges.getLast? = some (asked, outcome) ∧
        (request.isWrite = false → ¬ Denies (asked, outcome)) ∧
        ∀ object, outcome = .ok object → asked.isLookup = false := by
  cases serves with
  | unreadable unread => exact .inr (.inl ⟨.inl ⟨unread, rfl⟩, rfl⟩)
  | @unplaced resource _ looked unplaced =>
    obtain ⟨_, _, _, looked⟩ := looked
    obtain ⟨asked, last, _⟩ := looked.exists_last
    have isLookup := looked.isLookup _ (List.mem_of_getLast? last)
    exact .inr (.inl ⟨.inr ⟨unplaced, asked, resource, last, isLookup⟩, rfl⟩)
  | @unfound _ fault looked passes =>
    obtain ⟨_, _, _, looked⟩ := looked
    obtain ⟨asked, last, denies, _⟩ := looked.exists_last
    refine .inr (.inr ⟨asked, last, fun reads denied => ?_, by simp⟩)
    obtain ⟨_, ⟨⟩, failed⟩ := denies.mp denied
    simp [reads, failed] at passes
  | @unserved _ fault looked reads failed message =>
    obtain ⟨_, _, _, found⟩ := id looked
    obtain ⟨asked, last, denies, _⟩ := found.exists_last
    have denied := denies.mpr ⟨fault, rfl, failed⟩
    exact .inl ⟨reads, asked, message, fault, last, denied, rfl,
      looked.ne_missing (ne_missing_of_denies denied)⟩
  | @called _ _ call looked calls reply passes =>
    exact .inr (.inr ⟨call, by simp, fun _ => passes, fun _ _ => calls.isLookup⟩)
  | @absent _ _ call fault looked calls denied message =>
    refine .inl ⟨calls.reads denied, call, message, fault, by simp, denied, rfl, ?_⟩
    rw [List.forall_mem_append]
    exact ⟨looked.ne_missing (by simp), by simpa using ne_missing_of_denies denied⟩

/-- Every fault of the cluster reaches the caller, but for the denials of a read and the lookups
that are followed by another. -/
theorem relays (serves : store.Serves request exchanges outcome) :
    ∀ exchange ∈ exchanges, ∀ fault, exchange.2 = .error fault →
      outcome = .error fault ∨ (request.isWrite = false ∧ Denies exchange) ∨
        fault.isLookup = true ∧ ∃ apiVersion kind, exchange.1 = .findKind apiVersion kind := by
  have followed {resource : Value} {lookups : List Exchange}
      (looked : Resolves request lookups (.ok resource)) : ∀ exchange ∈ lookups, ∀ fault,
        exchange.2 = .error fault →
          outcome = .error fault ∨ (request.isWrite = false ∧ Denies exchange) ∨
            fault.isLookup = true ∧ ∃ apiVersion kind, exchange.1 = .findKind apiVersion kind := by
    intro exchange member fault failed
    exact .inr (.inr ((looked.relays exchange member fault failed).resolve_left (by simp)))
  cases serves with
  | unreadable => simp
  | unfound looked =>
    intro exchange member fault failed
    exact (looked.relays exchange member fault failed).imp And.left .inr
  | unserved looked reads lookup =>
    intro exchange member fault failed
    obtain ⟨same, denied⟩ | passed := looked.relays exchange member fault failed
    · obtain rfl := Except.error.inj same
      exact .inr (.inl ⟨reads, denied lookup⟩)
    · exact .inr (.inr passed)
  | unplaced looked => exact followed looked
  | called looked calls =>
    rw [List.forall_mem_append, List.forall_mem_singleton]
    exact ⟨followed looked, fun fault failed => .inl failed⟩
  | absent looked calls denied =>
    rw [List.forall_mem_append, List.forall_mem_singleton]
    exact ⟨followed looked, fun fault failed => .inr (.inl ⟨calls.reads denied, denied⟩)⟩

theorem reports (serves : store.Serves request exchanges outcome) :
    ReportsMissing exchanges outcome ↔ request.isWrite = false ∧
      ∃ exchange, exchanges.getLast? = some exchange ∧ Denies exchange := by
  obtain ⟨reads, asked, message, cause, last, denied, rfl, others⟩ | ⟨stuck, rfl⟩ |
    ⟨asked, last, passes, _⟩ := serves.told
  · exact iff_of_true ⟨_, rfl, rfl, others⟩ ⟨reads, _, last, denied⟩
  · refine iff_of_false ?_ (by simp [stuck.isWrite])
    rintro ⟨_, ⟨⟩, missing, _⟩
    simp [Fault.isObjectMissing, Fault.problem?] at missing
  · refine iff_of_false ?_ ?_
    · rintro ⟨_, rfl, _, others⟩
      exact others _ (List.mem_of_getLast? last) rfl
    · rintro ⟨reads, exchange, same, denied⟩
      obtain rfl := Option.some.inj (last.symm.trans same)
      exact passes reads denied

theorem causes (serves : store.Serves request exchanges outcome) {fault : Fault}
    (failure : outcome = .error fault) (missing : fault.isObjectMissing = true)
    (others : ∀ exchange ∈ exchanges, exchange.2 ≠ .error fault) :
    ∃ asked cause, exchanges.getLast? = some (asked, .error cause) ∧
      fault.cause? = some cause := by
  subst failure
  obtain ⟨_, asked, message, cause, last, _, same, _⟩ | ⟨_, same⟩ | ⟨asked, last, _⟩ := serves.told
  · obtain rfl := Except.error.inj same
    exact ⟨asked, cause, last, rfl⟩
  · obtain rfl := Except.error.inj same
    simp [Fault.isObjectMissing, Fault.problem?] at missing
  · exact (others _ (List.mem_of_getLast? last) rfl).elim

theorem raises (serves : store.Serves request exchanges outcome) {fault : Fault}
    (failure : outcome = .error fault) : ReportsMissing exchanges outcome ∨
      (∃ asked, exchanges.getLast? = some (asked, .error fault)) ∨
        fault = .lacksOperation ∧ Stuck request exchanges := by
  obtain ⟨_, asked, message, cause, _, _, rfl, others⟩ | ⟨stuck, rfl⟩ | ⟨asked, last, _⟩ :=
    serves.told
  · exact .inl ⟨_, rfl, rfl, others⟩
  · exact .inr (.inr ⟨(Except.error.inj failure).symm, stuck⟩)
  · exact .inr (.inl ⟨asked, failure ▸ last⟩)

theorem proceeds (serves : store.Serves request exchanges outcome) {asked : Request}
    {resource : Value} (last : exchanges.getLast? = some (asked, .ok resource))
    (isLookup : asked.isLookup = true) :
    Unplaced request ∧ outcome = .error .lacksOperation := by
  obtain ⟨_, _, _, _, last', _⟩ | ⟨⟨_, rfl⟩ | ⟨unplaced, _⟩, rfl⟩ | ⟨_, last', _, called⟩ :=
    serves.told
  · cases last.symm.trans last'
  · contradiction
  · exact ⟨unplaced, rfl⟩
  · cases last.symm.trans last'
    simp [called resource rfl] at isLookup

theorem returns (serves : store.Serves request exchanges outcome) {object : Value}
    (success : outcome = .ok object) :
    ∃ call, exchanges.getLast? = some (call, .ok object) ∧ call.isLookup = false := by
  subst success
  obtain ⟨_, _, _, _, _, _, same, _⟩ | ⟨_, same⟩ | ⟨call, last, _, called⟩ := serves.told
  · contradiction
  · contradiction
  · exact ⟨call, last, called object rfl⟩

end Serves

/-- Whatever the cluster replies, the store reports as missing what is shown not to be there, and
passes all else on. -/
theorem translates_replies {σ : Type} (answer : σ → Request → Answer σ Value) (source : σ)
    (store : LiveStore) (request : Store.Request) :
    store.Translates request ((store.serve request).run answer source).exchanges
      ((store.serve request).run answer source).outcome := by
  have serves := serves_of_plays (plays_run answer source (store.serve request))
  exact ⟨serves.looksUp, fun _ _ => serves.proceeds, serves.calls, serves.single, serves.reports,
    fun _ => serves.causes, serves.relays, fun _ => serves.raises, fun _ => serves.returns⟩

end LiveStore

end ManifestOwnership.Cluster
