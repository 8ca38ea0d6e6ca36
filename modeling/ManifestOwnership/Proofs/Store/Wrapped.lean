import ManifestOwnership.Store.Scripted
import ManifestOwnership.Proofs.Play
import ManifestOwnership.Proofs.Store.Reply

/-! # Stores with replies of their own

A party with a store inside hands a request on, or gives a reply of its own and leaves the store.
Which of the two it does and what it replies is free: both may depend on all that was asked before.
The one thing it never does is to reply null, since a store replies with an object or a fault. What
is proved against any such party holds against the store itself and against a scripted one.
-/

namespace ManifestOwnership.Store

open Interaction

variable {σ : Type} {issuer : Issuer} {memory after : Memory} {r : Request}
  {reply : Except Fault Value} {inside : σ → Memory} {answer : σ → Request → Answer σ Value}
  {source target : σ} {exchanges : List (Request × Except Fault Value)}

/-- How a request to a party is served, given the store inside it before and after. -/
inductive Served (issuer : Issuer) (memory : Memory) (r : Request) :
    Except Fault Value → Memory → Prop where
  | byStore : Served issuer memory r (memory.answer issuer r).reply (memory.answer issuer r).state
  | byRule {reply : Except Fault Value} (standsIn : Rule.standsIn reply = true) :
      Served issuer memory r reply memory

/-- A party has a store inside it that serves what the party does not. -/
def Wraps (issuer : Issuer) (inside : σ → Memory) (answer : σ → Request → Answer σ Value) : Prop :=
  ∀ state r, Served issuer (inside state) r (answer state r).reply (inside (answer state r).state)

/-- A store is such a party itself. -/
theorem Memory.wraps (issuer : Issuer) : Wraps issuer id (Memory.answer issuer) :=
  fun _ _ => .byStore

theorem Script.standsIn_of_reply? {script : Script} {count : Nat}
    (scripted : script.reply? r count = some reply) : Rule.standsIn reply = true := by
  cases script with
  | byStore => contradiction
  | byFault fault =>
    obtain rfl := Option.some.inj scripted
    rfl
  | byRules rules => exact (Option.filter_eq_some_iff.mp scripted).2

/-- A scripted store is a party with a store inside, whatever the scripts. -/
theorem Scripted.wraps (issuer : Issuer) :
    Wraps issuer Scripted.memory (Scripted.answer issuer) := by
  intro store r
  have counted : (store.counted r).memory = store.memory := by cases r <;> rfl
  rw [Scripted.answer, ← counted]
  cases scripted : (store.counted r).scripted? r with
  | none => exact .byStore
  | some reply =>
    refine .byRule ?_
    cases r with
    | get => exact Script.standsIn_of_reply? scripted
    | create => exact Script.standsIn_of_reply? scripted
    | update => exact Script.standsIn_of_reply? scripted

/-- A store that fails to write the objects of a name. -/
def Scripted.refusing (name : String) (memory : Memory) : Scripted :=
  let refusal : Script :=
    .byRules [⟨some (.text name), none, none, .error (.problem .cluster "down")⟩]
  .start memory .byStore refusal refusal

namespace Served

variable (served : Served issuer memory r reply after)

include served

theorem sound (sound : memory.Sound) : after.Sound := by
  cases served with
  | byStore => exact sound.answer r
  | byRule => exact sound

/-- What a sound store replies is an object or a fault as well. -/
theorem standsIn (sound : memory.Sound) : Rule.standsIn reply = true := by
  cases served with
  | byRule standsIn => exact standsIn
  | byStore =>
    cases replied : (memory.answer issuer r).reply with
    | error fault => rfl
    | ok object =>
      obtain ⟨key, _, found⟩ := Memory.find?_of_reply replied
      have held := (sound.answer r).held key object found
      simp [Rule.standsIn, held.formed.ne_null]

/-- A request that only reads leaves the store, and one that ends in a fault does too. -/
theorem unchanged (idle : r.isWrite = false ∨ ∃ fault, reply = .error fault) : after = memory := by
  cases served with
  | byRule => rfl
  | byStore =>
    rcases idle with reads | ⟨fault, failed⟩
    · cases r with
      | get => rfl
      | create => contradiction
      | update => contradiction
    · exact Memory.state_of_fault failed

end Served

namespace Wraps

variable (wraps : Wraps issuer inside answer)

include wraps

/-- Along a whole course the store inside stays sound and no reply is null. -/
theorem of_answers (sound : (inside source).Sound)
    (answers : Answers answer source exchanges target) :
    (inside target).Sound ∧ ∀ exchange ∈ exchanges, Rule.standsIn exchange.2 = true := by
  induction exchanges generalizing source with
  | nil =>
    obtain rfl := answers
    exact ⟨sound, fun _ member => nomatch member⟩
  | cons exchange later ih =>
    obtain ⟨r, reply⟩ := exchange
    obtain ⟨rfl, answers⟩ := answers
    have served := wraps source r
    obtain ⟨sound', standIn⟩ := ih (served.sound sound) answers
    exact ⟨sound', List.forall_mem_cons.mpr ⟨served.standsIn sound, standIn⟩⟩

/-- Exchanges without a successful write leave the store inside. -/
theorem inside_of_idle (answers : Answers answer source exchanges target)
    (idle : ∀ exchange ∈ exchanges,
      exchange.1.isWrite = false ∨ ∃ fault, exchange.2 = .error fault) :
    inside target = inside source := by
  induction exchanges generalizing source with
  | nil =>
    obtain rfl := answers
    rfl
  | cons exchange later ih =>
    obtain ⟨r, reply⟩ := exchange
    obtain ⟨rfl, answers⟩ := answers
    obtain ⟨here, there⟩ := List.forall_mem_cons.mp idle
    exact (ih answers there).trans ((wraps source r).unchanged here)

end Wraps

end ManifestOwnership.Store
