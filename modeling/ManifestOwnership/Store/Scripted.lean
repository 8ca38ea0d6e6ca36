import ManifestOwnership.Store.Memory

/-! # A store with scripted replies

A store in memory whose requests can be made to fail or to be answered by a fixed value. A rule's
reply stays what it is: whatever is done with a fixed value, the next request that the rule is for
gets it unchanged. A rule whose value is null leaves the request to the store.
-/

namespace ManifestOwnership.Store

/-- A reply for the requests that satisfy every condition the rule has: the object's name, its
kind, and the count of requests of the same sort so far. -/
structure Rule where
  name : Option Value
  kind : Option Value
  nth : Option Value
  reply : Except Fault Value

namespace Rule

/-- Whether a condition that may be absent holds of a value. -/
def meets (condition : Option Value) (value : Value) : Bool :=
  condition.all (·.equals value)

def isFor (rule : Rule) (request : Request) (count : Nat) : Bool :=
  meets rule.name request.name && meets rule.kind request.kind && meets rule.nth (.int count)

/-- Whether a reply takes the place of the store's own. -/
def standsIn : Except Fault Value → Bool
  | .ok value => !value.isNull
  | .error _ => true

end Rule

/-- How the requests of one sort are answered. -/
inductive Script where
  /-- By the store. -/
  | byStore
  /-- By a fault. -/
  | byFault (fault : Fault)
  /-- By the first rule that is for the request, and by the store if there is none or its reply does
  not stand in. -/
  | byRules (rules : List Rule)

namespace Script

/-- The reply that a script has for a request, the `count`-th of its sort. -/
def reply? (script : Script) (request : Request) (count : Nat) : Option (Except Fault Value) :=
  match script with
  | byStore => none
  | byFault fault => some (.error fault)
  | byRules rules =>
    ((rules.find? fun rule => rule.isFor request count).map (·.reply)).filter Rule.standsIn

end Script

/-- A store in memory with scripts for its requests and the counts of the requests made. -/
structure Scripted where
  memory : Memory
  onGet : Script
  onCreate : Script
  onUpdate : Script
  gets : Nat
  creates : Nat
  updates : Nat

namespace Scripted

def start (memory : Memory) (onGet onCreate onUpdate : Script) : Scripted :=
  ⟨memory, onGet, onCreate, onUpdate, 0, 0, 0⟩

/-- How many writes were asked for, failed ones included. -/
def writes (store : Scripted) : Nat :=
  store.creates + store.updates

def counted (store : Scripted) : Request → Scripted
  | .get _ _ _ _ => { store with gets := store.gets + 1 }
  | .create _ => { store with creates := store.creates + 1 }
  | .update _ => { store with updates := store.updates + 1 }

/-- The reply that the script has for a request already counted. -/
def scripted? (store : Scripted) (request : Request) : Option (Except Fault Value) :=
  match request with
  | .get _ _ _ _ => store.onGet.reply? request store.gets
  | .create _ => store.onCreate.reply? request store.creates
  | .update _ => store.onUpdate.reply? request store.updates

/-- How a scripted store answers a request: by its script if that has a reply, and otherwise by the
store in memory. The request counts either way. -/
def answer (issuer : Issuer) (store : Scripted) (request : Request) :
    Interaction.Answer Scripted Value :=
  let current := store.counted request
  match current.scripted? request with
  | some reply => ⟨current, reply, []⟩
  | none =>
    let answered := current.memory.answer issuer request
    ⟨{ current with memory := answered.state }, answered.reply, answered.events⟩

end Scripted

end ManifestOwnership.Store
