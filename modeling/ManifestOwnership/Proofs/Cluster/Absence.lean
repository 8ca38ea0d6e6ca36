import ManifestOwnership.Proofs.Cluster.LiveStore
import ManifestOwnership.Proofs.Establish.Protocol
import ManifestOwnership.Cluster.Directory

/-! # What a pass takes for missing on a live cluster

A pass that does not take control skips the objects that are missing. On a live cluster these are
the objects whose read ends in a reply that shows an absence: the cluster has no such object, or the
lookups of its kind end in a fault. That fault may say that the kind is not served, and it may as
well say that there are several such kinds: the store does not tell the two apart. Every other fault
of the cluster ends the pass. No reply is excluded here, not even a null object or a fault in the
terms of this library.
-/

namespace ManifestOwnership

open Interaction

namespace Pass

variable {pass : Pass} {declared desired : Value} {r : Store.Request}
  {exchanges : List (Store.Request × Except Fault Value)}

/-- A reply that tells a pass that there is no object. -/
def TellsMissing : Except Fault Value → Prop
  | .ok object => object.isNull = true
  | .error fault => fault.isObjectMissing = true

/-- How a pass goes on from the reply to its read of an object: there it ends with a fault, skips
the object, or makes one write, the reply to which decides. -/
inductive Reacts (reply : Except Fault Value) :
    List (Store.Request × Except Fault Value) → Except Fault Outcome → Prop where
  | refused {fault : Fault} (same : reply = .error fault) : Reacts reply [] (.error fault)
  | unmade {fault : Fault} (told : ∀ fault, reply = .error fault → fault.isObjectMissing = true) :
      Reacts reply [] (.error fault)
  | skipped (missing : TellsMissing reply) : Reacts reply [] (.ok .skipped)
  | written {write : Store.Request} {written : Except Fault Value} {outcome : Outcome}
      (told : ∀ fault, reply = .error fault → fault.isObjectMissing = true)
      (isWrite : write.isWrite = true) (done : outcome ≠ .skipped) :
      Reacts reply [(write, written)] (written.map fun _ => outcome)

theorem reacts_of_plays {outcome : Except Fault (Value × Outcome)}
    (read : reading desired = .ok r) (plays : (pass.apply desired).Plays exchanges outcome) :
    ∃ reply later, exchanges = (r, reply) :: later ∧ Reacts reply later (outcome.map (·.2)) := by
  obtain ⟨reply, later, rfl, ⟨fault, rfl, _, rfl, rfl⟩ | ⟨told, null, created⟩ |
    ⟨current, rfl, _, updated⟩⟩ := plays_apply_cases read plays
  · exact ⟨_, [], rfl, .refused rfl⟩
  · refine ⟨reply, later, rfl, ?_⟩
    obtain ⟨_, rfl, rfl⟩ | ⟨_, ⟨fault, _, rfl, rfl⟩ | ⟨target, written, _, rfl, rfl⟩⟩ :=
      plays_create (formed_of_reading read) created
    · refine .skipped ?_
      cases reply with
      | ok current => exact null current rfl
      | error fault => exact told fault rfl
    · exact .unmade told
    · have met : Reacts reply [(.create target, written)] (written.map fun _ => .created) :=
        .written told rfl (by decide)
      cases written <;> exact met
  · refine ⟨_, later, rfl, ?_⟩
    obtain ⟨fault, _, rfl, rfl⟩ | ⟨target, written, _, rfl, rfl⟩ := plays_update updated
    · exact .unmade (by simp)
    · have met : Reacts (.ok current) [(.update target, written)]
          (written.map fun _ => .updated) := .written (by simp) rfl (by decide)
      cases written <;> exact met

/-- The fault of a reply is what all comes to, unless it tells that an object that is read is
missing. -/
theorem Reacts.surfaces {reply : Except Fault Value} {met : Except Fault Outcome}
    (reacts : Reacts reply exchanges met) (reads : r.isWrite = false) :
    ∀ exchange ∈ (r, reply) :: exchanges, ∀ fault, exchange.2 = .error fault →
      met = .error fault ∨ exchange.1.isWrite = false ∧ fault.isObjectMissing = true := by
  rw [List.forall_mem_cons]
  cases reacts with
  | refused same =>
    exact ⟨fun fault failed => .inl (by rw [Except.error.inj (same.symm.trans failed)]), by simp⟩
  | unmade told => exact ⟨fun fault failed => .inr ⟨reads, told fault failed⟩, by simp⟩
  | skipped missing =>
    refine ⟨fun fault failed => .inr ⟨reads, ?_⟩, by simp⟩
    obtain rfl : reply = .error fault := failed
    exact missing
  | written told isWrite =>
    refine ⟨fun fault failed => .inr ⟨reads, told fault failed⟩, ?_⟩
    rintro _ (_ | _) fault failed
    · obtain rfl := failed
      exact .inl rfl
    · contradiction

/-- A declared object is read and then gone on with; what has no result there has none at all. -/
theorem reacts_of_plays_establishOne {outcome : Except Fault Established}
    (plays : (pass.establishOne declared).Plays exchanges outcome) :
    (exchanges = [] ∧ ∃ fault, outcome = .error fault) ∨
      ∃ r reply later met, r.isWrite = false ∧ exchanges = (r, reply) :: later ∧
        Reacts reply later met ∧ (∀ fault, met = .error fault → outcome = .error fault) ∧
        ∀ result, outcome = .ok result → met = .ok result.outcome := by
  rw [establishOne] at plays
  cases prepared : (pass.prepare declared).outcome with
  | error fault =>
    obtain ⟨rfl, rfl⟩ := (plays_bind_of_error prepared).mp plays
    exact .inl ⟨rfl, fault, rfl⟩
  | ok desired =>
    replace plays := (plays_bind_of_ok prepared).mp plays
    cases read : reading desired with
    | error fault =>
      rw [apply, read] at plays
      obtain ⟨rfl, rfl⟩ := plays
      exact .inl ⟨rfl, fault, rfl⟩
    | ok r =>
      have reads : r.isWrite = false := by
        obtain rfl := Except.ok.inj (read.symm.trans (reading_eq (formed_of_reading read)))
        rfl
      obtain ⟨fault, applied, rfl⟩ | ⟨⟨final, done⟩, early, late, applied, reported, rfl⟩ :=
        plays_bind_iff.mp plays
      · obtain ⟨reply, later, rfl, met⟩ := reacts_of_plays read applied
        exact .inr ⟨r, reply, later, _, reads, rfl, met, by simp [Except.map], by simp⟩
      · obtain ⟨reply, later, rfl, met⟩ := reacts_of_plays read applied
        simp only [plays_lift_bind_iff, plays_report_iff, plays_pure_iff] at reported
        obtain ⟨_, _, rfl, rfl⟩ | ⟨_, _, ⟨_, _, rfl, rfl⟩ | ⟨_, _, rfl, rfl⟩⟩ := reported
        · exact .inr ⟨r, reply, later, _, reads, by simp, met, by simp [Except.map], by simp⟩
        · exact .inr ⟨r, reply, later, _, reads, by simp, met, by simp [Except.map], by simp⟩
        · refine .inr ⟨r, reply, later, _, reads, by simp, met, by simp [Except.map], ?_⟩
          rintro _ ⟨⟩
          rfl

/-- A fault that is replied about declared objects ends the pass, unless it tells that an object
that is read is missing. -/
theorem surfaces_of_plays {objects : List Value} {outcome : Except Fault (List Established)}
    (plays : (pass.establishAll objects).Plays exchanges outcome) :
    ∀ exchange ∈ exchanges, ∀ fault, exchange.2 = .error fault →
      outcome = .error fault ∨ exchange.1.isWrite = false ∧ fault.isObjectMissing = true := by
  have surfaces {declared : Value} {exchanges : List (Store.Request × Except Fault Value)}
      {outcome : Except Fault Established}
      (plays : (pass.establishOne declared).Plays exchanges outcome) :
      ∀ exchange ∈ exchanges, ∀ fault, exchange.2 = .error fault →
        outcome = .error fault ∨ exchange.1.isWrite = false ∧ fault.isObjectMissing = true := by
    obtain ⟨rfl, _⟩ | ⟨r, reply, later, met, reads, rfl, reacts, fails, _⟩ :=
      reacts_of_plays_establishOne plays
    · simp
    · intro exchange member fault failed
      exact (reacts.surfaces reads exchange member fault failed).imp_left (fails fault)
  induction objects generalizing exchanges outcome with
  | nil =>
    obtain ⟨rfl, rfl⟩ := plays
    simp
  | cons declared rest ih =>
    rw [establishAll] at plays
    obtain ⟨fault, one, rfl⟩ | ⟨result, early, late, one, others, rfl⟩ := plays_bind_iff.mp plays
    · intro exchange member fault' failed
      refine (surfaces one exchange member fault' failed).imp_left fun same => ?_
      rw [Except.error.inj same]
    · have passed : ∀ exchange ∈ early, ∀ fault, exchange.2 = .error fault →
          exchange.1.isWrite = false ∧ fault.isObjectMissing = true := fun exchange member fault
        failed => (surfaces one exchange member fault failed).resolve_left (by simp)
      rw [List.forall_mem_append]
      refine ⟨fun exchange member fault failed => .inr (passed exchange member fault failed), ?_⟩
      obtain ⟨fault, all, rfl⟩ | ⟨results, _, _, all, ⟨rfl, rfl⟩, rfl⟩ := plays_bind_iff.mp others
      · intro exchange member fault' failed
        refine (ih all exchange member fault' failed).imp_left fun same => ?_
        rw [Except.error.inj same]
      · intro exchange member fault failed
        rw [List.append_nil] at member
        exact .inr ((ih all exchange member fault failed).resolve_left (by simp))

end Pass

namespace Cluster

/-- An exchange by which the cluster shows that an object is not there, or which can be taken for
that: no object at all, or a fault in the terms of this library. -/
def ShowsAbsence : Exchange → Prop
  | (asked, .ok object) =>
    object.isNull = true ∧ ∃ resource name scope timeout, asked = .get resource name scope timeout
  | (asked, .error fault) => Denies (asked, .error fault) ∨ fault.isObjectMissing = true

namespace LiveStore

variable {store : LiveStore} {request : Store.Request} {exchanges : List Exchange}
  {outcome : Except Fault Value}

/-- A read tells that an object is missing exactly if the last reply of the cluster shows it. -/
theorem Serves.tellsMissing_iff (serves : store.Serves request exchanges outcome)
    (reads : request.isWrite = false) : Pass.TellsMissing outcome ↔
      ∃ exchange, exchanges.getLast? = some exchange ∧ ShowsAbsence exchange := by
  obtain ⟨_, asked, message, cause, last, denied, rfl, _⟩ | ⟨stuck, _⟩ |
    ⟨asked, last, passes, called⟩ := serves.told
  · exact iff_of_true rfl ⟨_, last, .inl denied⟩
  · simp [stuck.isWrite] at reads
  · have other := passes reads
    simp only [last, Option.some.injEq, exists_eq_left']
    cases outcome with
    | error fault => simp [Pass.TellsMissing, ShowsAbsence, other]
    | ok object =>
      obtain ⟨_, _, resource, _, _, calls⟩ :=
        serves.calls _ (List.mem_of_getLast? last) (called object rfl)
      cases calls with
      | get => exact ⟨fun null => ⟨null, _, _, _, _, rfl⟩, And.left⟩
      | create => simp [Store.Request.isWrite] at reads
      | replace => simp [Store.Request.isWrite] at reads

/-- After a write the last reply shows no absence. -/
theorem Serves.not_showsAbsence {object : Value}
    (serves : store.Serves request exchanges (.ok object)) (writes : request.isWrite = true) :
    ∃ exchange, exchanges.getLast? = some exchange ∧ ¬ ShowsAbsence exchange := by
  obtain ⟨call, last, called⟩ := serves.returns rfl
  refine ⟨_, last, ?_⟩
  obtain ⟨_, _, resource, _, _, calls⟩ := serves.calls _ (List.mem_of_getLast? last) called
  cases calls with
  | get => simp [Store.Request.isWrite] at writes
  | create => simp [ShowsAbsence]
  | replace => simp [ShowsAbsence]

/-- What a store asks of the cluster for the requests of an activity, one after another. -/
abbrev Round := (Store.Request × Except Fault Value) × List Exchange

/-- What is asked of the cluster for one declared object ends in an absence exactly if the object is
skipped. -/
theorem skipped_iff_of_reacts {r : Store.Request} {reply : Except Fault Value}
    {later : List (Store.Request × Except Fault Value)} {done : Outcome} {rounds : List Round}
    (each : ∀ round ∈ rounds, store.Serves round.1.1 round.2 round.1.2)
    (reads : r.isWrite = false) (split : rounds.map (·.1) = (r, reply) :: later)
    (reacts : Pass.Reacts reply later (.ok done)) :
    done = .skipped ↔
      ∃ exchange, (rounds.flatMap (·.2)).getLast? = some exchange ∧ ShowsAbsence exchange := by
  obtain ⟨⟨_, front⟩, rounds, rfl, rfl, rfl⟩ := List.map_eq_cons_iff.mp split
  obtain ⟨read, each⟩ := List.forall_mem_cons.mp each
  generalize settled : (Except.ok done : Except Fault Outcome) = met at reacts
  generalize shape : rounds.map (·.1) = others at reacts
  cases reacts with
  | refused => contradiction
  | unmade => contradiction
  | skipped missing =>
    obtain rfl := Except.ok.inj settled
    obtain rfl := List.map_eq_nil_iff.mp shape
    simpa using (read.tellsMissing_iff reads).mp missing
  | @written write written outcome told isWrite other =>
    cases written with
    | error fault => contradiction
    | ok stored =>
      obtain rfl := Except.ok.inj settled
      obtain ⟨⟨_, back⟩, rounds, rfl, rfl, none⟩ := List.map_eq_cons_iff.mp shape
      obtain rfl := List.map_eq_nil_iff.mp none
      obtain ⟨exchange, last, present⟩ :=
        (List.forall_mem_singleton.mp each).not_showsAbsence isWrite
      refine iff_of_false other ?_
      rintro ⟨exchange', same, absent⟩
      simp only [List.flatMap_cons, List.flatMap_nil, List.append_nil, List.getLast?_append, last,
        Option.some_or, Option.some.injEq] at same
      exact present (same ▸ absent)

/-- What is asked of the cluster for the declared objects falls into parts, one for each result, of
which those that end in an absence are the parts of the objects that are skipped. -/
theorem exists_parts {pass : Pass} {objects : List Value} {results : List Established}
    {rounds : List Round} (each : ∀ round ∈ rounds, store.Serves round.1.1 round.2 round.1.2)
    (plays : (pass.establishAll objects).Plays (rounds.map (·.1)) (.ok results)) :
    ∃ parts, rounds.flatMap (·.2) = parts.flatten ∧
      List.Forall₂ (fun (result : Established) part => result.outcome = .skipped ↔
        ∃ exchange, part.getLast? = some exchange ∧ ShowsAbsence exchange) results parts := by
  induction objects generalizing rounds results with
  | nil =>
    obtain ⟨none, same⟩ := plays
    obtain rfl := List.map_eq_nil_iff.mp none
    obtain rfl := Except.ok.inj same
    exact ⟨[], rfl, .nil⟩
  | cons declared rest ih =>
    rw [Pass.establishAll] at plays
    obtain ⟨_, _, same⟩ | ⟨result, early, late, one, others, split⟩ := plays_bind_iff.mp plays
    · contradiction
    obtain ⟨_, _, same⟩ | ⟨results, _, _, all, ⟨rfl, same⟩, rfl⟩ := plays_bind_iff.mp others
    · contradiction
    obtain rfl := Except.ok.inj same
    rw [List.append_nil] at split
    obtain ⟨front, back, rfl, rfl, rfl⟩ := List.map_eq_append_iff.mp split
    obtain ⟨here, there⟩ := List.forall_mem_append.mp each
    obtain ⟨parts, flat, matched⟩ := ih there all
    obtain ⟨_, _, same⟩ | ⟨r, reply, later, met, reads, shape, reacts, _, done⟩ :=
      Pass.reacts_of_plays_establishOne one
    · contradiction
    · rw [done result rfl] at reacts
      refine ⟨front.flatMap (·.2) :: parts, ?_, .cons ?_ matched⟩
      · rw [List.flatMap_append, flat, List.flatten_cons]
      · exact skipped_iff_of_reacts here reads shape reacts

end LiveStore

/-- A cluster that serves two resources of one version and one kind, which is a short name of both
as well. -/
def Directory.twofold (apiVersion kind : Value) : Directory where
  served := [⟨apiVersion, kind, [kind]⟩, ⟨apiVersion, kind, [kind]⟩]
  lookupFault := none
  gets := []
  creates := []
  replaces := []
  connected := false

end Cluster

namespace Undertaking

variable {undertaking : Undertaking} {exchanges : List (Store.Request × Except Fault Value)}

/-- A fault in reply to the read of the secret is what fetching the bundle ends with. -/
theorem Fetches.surfaces {bundle : Except Fault (Option Webhook.CABundle)}
    (fetches : undertaking.Fetches exchanges bundle) :
    ∀ exchange ∈ exchanges, ∀ fault, exchange.2 = .error fault →
      ∃ message, bundle = .error (.secretUnreadable message fault) := by
  cases fetches with
  | unread => simp
  | unnamed => simp
  | asked _ _ reply =>
    rintro _ (_ | _) fault failed
    · obtain rfl : reply = .error fault := failed
      exact ⟨_, rfl⟩
    · contradiction

/-- A fault that is replied ends a pass, unless it tells that an object that is read is missing. -/
theorem surfaces_of_plays {outcome : Except Fault (List Established)}
    (plays : undertaking.activity.Plays exchanges outcome) :
    ∀ exchange ∈ exchanges, ∀ fault, exchange.2 = .error fault → outcome = .error fault ∨
      (∃ message, outcome = .error (.secretUnreadable message fault)) ∨
        exchange.1.isWrite = false ∧ fault.isObjectMissing = true := by
  obtain ⟨_, fetched, rfl⟩ | ⟨_, fetched, _, rfl⟩ | ⟨bundle, early, late, fetched, _, all, rfl⟩ :=
    plays_activity_cases plays
  · intro exchange member fault failed
    obtain ⟨message, same⟩ := (fetches_of_plays fetched).surfaces exchange member fault failed
    exact .inr (.inl ⟨message, by rw [Except.error.inj same]⟩)
  · intro exchange member fault failed
    obtain ⟨message, same⟩ := (fetches_of_plays fetched).surfaces exchange member fault failed
    contradiction
  · rw [List.forall_mem_append]
    constructor <;> intro exchange member fault failed
    · obtain ⟨message, same⟩ := (fetches_of_plays fetched).surfaces exchange member fault failed
      contradiction
    · exact (Pass.surfaces_of_plays all exchange member fault failed).imp_right .inr

/-- How a pass on a live cluster takes the replies of the cluster. -/
structure TakesForMissing {σ : Type} (course : Course σ Cluster.Request Value (List Established)) :
    Prop where
  /-- What follows the fetching of the bundle falls into parts, one for each object. The objects
  that are skipped are those whose part ends in a reply that shows an absence. -/
  skips : ∀ results, course.outcome = .ok results →
    ∃ early parts, course.exchanges = early ++ parts.flatten ∧
      List.Forall₂ (fun (result : Established) part => result.outcome = .skipped ↔
        ∃ exchange, part.getLast? = some exchange ∧ Cluster.ShowsAbsence exchange) results parts
  /-- A fault that shows no absence ends the pass, a lookup apart that is followed by another. -/
  raises : ∀ exchange ∈ course.exchanges, ∀ fault, exchange.2 = .error fault →
    course.outcome = .error fault ∨
      (∃ message, course.outcome = .error (.secretUnreadable message fault)) ∨
      Cluster.ShowsAbsence exchange ∨
      fault.isLookup = true ∧ ∃ apiVersion kind, exchange.1 = .findKind apiVersion kind

/-- A pass on a live cluster skips the objects that the last reply to their read shows to be absent,
by the lookups of their kind or by the read itself, and no others. -/
theorem skips_iff_shown_absent {σ : Type} (answer : σ → Cluster.Request → Answer σ Value)
    (source : σ) (store : Cluster.LiveStore) (undertaking : Undertaking) :
    TakesForMissing ((undertaking.activity.through store.serve).run answer source) := by
  have plays := plays_run answer source (undertaking.activity.through store.serve)
  obtain ⟨rounds, served, plays, flat⟩ := plays_through_iff.mp plays
  have each : ∀ round ∈ rounds, store.Serves round.1.1 round.2 round.1.2 :=
    fun round member => Cluster.LiveStore.serves_of_plays (served round member)
  constructor
  · intro results success
    rw [success] at plays
    obtain ⟨_, _, same⟩ | ⟨_, _, _, same⟩ | ⟨bundle, early, late, _, _, all, split⟩ :=
      plays_activity_cases plays
    · contradiction
    · contradiction
    obtain ⟨front, back, rfl, rfl, rfl⟩ := List.map_eq_append_iff.mp split
    obtain ⟨parts, same, matched⟩ :=
      Cluster.LiveStore.exists_parts (List.forall_mem_append.mp each).2 all
    exact ⟨front.flatMap (·.2), parts, by rw [flat, List.flatMap_append, same], matched⟩
  · intro exchange member fault failed
    rw [flat] at member
    obtain ⟨round, present, asked⟩ := List.mem_flatMap.mp member
    obtain told | ⟨_, denied⟩ | again := (each round present).relays exchange asked fault failed
    · obtain ended | unread | ⟨_, missing⟩ :=
        surfaces_of_plays plays round.1 (List.mem_map_of_mem present) fault told
      · exact .inl ended
      · exact .inr (.inl unread)
      · obtain ⟨asked, reply⟩ := exchange
        obtain rfl : reply = .error fault := failed
        exact .inr (.inr (.inl (.inr missing)))
    · obtain ⟨asked, reply⟩ := exchange
      obtain rfl : reply = .error fault := failed
      exact .inr (.inr (.inl (.inl denied)))
    · exact .inr (.inr (.inr again))

/-- An object is skipped although the cluster only says that there are several such kinds. -/
theorem skips_ambiguous_kind :
    ∃ result course,
      ((ofNames "r" ["a"] false).activity.through (Cluster.LiveStore.mk .null).serve).run
        Cluster.Directory.answer (.twofold (.text "v1") (.text "Thing")) = course ∧
      course.outcome = .ok [result] ∧ result.outcome = .skipped ∧
      course.exchanges.map (·.2) = [.error (.kindAmbiguous "multiple matches"),
        .error (.kindAmbiguous "multiple matches")] :=
  ⟨_, _, rfl, rfl, rfl, rfl⟩

end Undertaking

end ManifestOwnership
