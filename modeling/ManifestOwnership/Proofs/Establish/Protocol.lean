import ManifestOwnership.Proofs.Store.Wrapped
import ManifestOwnership.Proofs.Establish.Run

/-! # The requests of a pass

Which requests a pass makes, in which order, and how it ends, whatever the store replies. Every
declared object is read once under its final identity and then written once at most: created if the
reply says that it is missing and the revision takes control, replaced if the reply is an object.
Any other fault ends the pass as it is. `Undertaking.Protocol` says this of a whole pass, as a
relation between the declared objects, the requests with their replies, and the outcome.
-/

namespace ManifestOwnership

open Store Interaction

variable {exchanges : List (Request × Except Fault Value)}

namespace Pass

variable {pass : Pass} {declared desired final : Value} {outcome : Except Fault Outcome}
  {objects : List Value} {outcomes : Except Fault (List Outcome)}

/-- The manifest that a missing object is created from. -/
def addition (pass : Pass) (desired : Value) : Except Fault Value :=
  (pass.owned true desired desired).outcome

/-- The manifest that an object is replaced with: the desired one at its version if the revision
takes control, and otherwise the object itself, in either case with the revision among its owners. -/
def replacement (pass : Pass) (current desired : Value) : Except Fault Value :=
  if pass.takesControl then
    atVersion current desired >>= fun versioned => (pass.owned true current versioned).outcome
  else (pass.owned false current current).outcome

/-- What a pass asks for a desired object, with the replies, and what becomes of the object. -/
inductive Applies (pass : Pass) (desired : Value) :
    List (Request × Except Fault Value) → Except Fault Outcome → Prop where
  | refused {fault : Fault} (other : fault.isObjectMissing = false) :
      Applies pass desired [(request desired, .error fault)] (.error fault)
  | skipped {missing : Fault} (isMissing : missing.isObjectMissing = true)
      (mere : pass.takesControl = false) :
      Applies pass desired [(request desired, .error missing)] (.ok .skipped)
  | unmade {missing fault : Fault} (isMissing : missing.isObjectMissing = true)
      (control : pass.takesControl = true) (unmade : pass.addition desired = .error fault) :
      Applies pass desired [(request desired, .error missing)] (.error fault)
  | created {missing : Fault} {target : Value} (isMissing : missing.isObjectMissing = true)
      (control : pass.takesControl = true) (made : pass.addition desired = .ok target)
      (reply : Except Fault Value) :
      Applies pass desired [(request desired, .error missing), (.create target, reply)]
        (reply.map fun _ => .created)
  | unchanged {current : Value} {fault : Fault}
      (unmade : pass.replacement current desired = .error fault) :
      Applies pass desired [(request desired, .ok current)] (.error fault)
  | updated {current target : Value} (made : pass.replacement current desired = .ok target)
      (reply : Except Fault Value) :
      Applies pass desired [(request desired, .ok current), (.update target, reply)]
        (reply.map fun _ => .updated)

/-- A declared object has a desired form, which is read under the final identity. -/
structure Ready (pass : Pass) (declared desired : Value) : Prop where
  prepared : (pass.prepare declared).outcome = .ok desired
  formed : Manifest.Formed desired
  identity : (request desired).key =
    pass.establisher.finalKey pass.settings pass.parent declared

/-- What a pass asks for a declared object: nothing if it cannot be prepared. -/
inductive Calls (pass : Pass) (declared : Value) :
    List (Request × Except Fault Value) → Except Fault Outcome → Prop where
  | unread {fault : Fault} (fails : (pass.prepare declared).outcome >>= reading = .error fault) :
      Calls pass declared [] (.error fault)
  | applied {desired : Value} {exchanges : List (Request × Except Fault Value)}
      {outcome : Except Fault Outcome} (ready : pass.Ready declared desired)
      (applies : pass.Applies desired exchanges outcome) : Calls pass declared exchanges outcome

/-- What a pass asks for declared objects: the first fault is the last of it. -/
inductive CallsAll (pass : Pass) :
    List Value → List (Request × Except Fault Value) → Except Fault (List Outcome) → Prop where
  | done : CallsAll pass [] [] (.ok [])
  | stopped {declared : Value} {rest : List Value}
      {exchanges : List (Request × Except Fault Value)} {fault : Fault}
      (one : pass.Calls declared exchanges (.error fault)) :
      CallsAll pass (declared :: rest) exchanges (.error fault)
  | next {declared : Value} {rest : List Value}
      {early late : List (Request × Except Fault Value)} {outcome : Outcome}
      {outcomes : Except Fault (List Outcome)} (one : pass.Calls declared early (.ok outcome))
      (others : CallsAll pass rest late outcomes) :
      CallsAll pass (declared :: rest) (early ++ late) (outcomes.map (outcome :: ·))

theorem ready (prepared : (pass.prepare declared).outcome = .ok desired)
    (formed : Manifest.Formed desired) : pass.Ready declared desired :=
  ⟨prepared, formed, (Pass.finalKey_eq prepared formed).symm⟩

/-- What gets the owners of an object is otherwise the manifest that they are written to. -/
theorem agree_of_owned {control : Bool} {object target made : Value}
    (success : (pass.owned control object target).outcome = .ok made)
    (formed : Manifest.Formed target) : Manifest.Agree ["ownerReferences"] made target := by
  rw [outcome_owned] at success
  obtain ⟨refs, _, owned⟩ := bind_eq_ok_iff.mp success
  rw [formed.setOwners_eq] at owned
  exact Except.ok.inj owned ▸ formed.agree_withOwners _

/-- A desired object at another version is otherwise the same. -/
theorem agree_of_atVersion {current versioned : Value}
    (success : atVersion current desired = .ok versioned) (formed : Manifest.Formed desired) :
    Manifest.Agree ["resourceVersion"] versioned desired := by
  simp only [atVersion, bind_eq_ok_iff] at success
  obtain ⟨_, _, version, _, success⟩ := success
  split at success
  · simp only [bind_eq_ok_iff, formed.field_metadata, Except.ok.injEq] at success
    obtain ⟨_, rfl, _, write, success⟩ := success
    obtain rfl := Except.ok.inj write
    rw [formed.setField_metadata] at success
    exact Except.ok.inj success ▸ formed.agree_set _ _
  · exact pure_eq_ok_iff.mp success ▸ .refl formed

/-- What replaces an object in a pass that takes control is a form of the desired one. -/
theorem agree_of_replacement {current target : Value} (control : pass.takesControl = true)
    (made : pass.replacement current desired = .ok target) (formed : Manifest.Formed desired) :
    Manifest.Agree ["ownerReferences", "resourceVersion"] target desired := by
  rw [replacement, if_pos control, bind_eq_ok_iff] at made
  obtain ⟨versioned, success, made⟩ := made
  have agree := agree_of_atVersion success formed
  exact ((agree_of_owned made agree.left).mono (by simp)).trans (agree.mono (by simp))

/-- A write is the last request for an object, and its fault is that of the object. -/
theorem plays_write_iff {r : Request} {result : Value × Outcome}
    {outcome : Except Fault (Value × Outcome)} :
    (ask r >>= fun _ => pure result : Interaction Request Value (Value × Outcome)).Plays exchanges
        outcome ↔
      ∃ reply : Except Fault Value, exchanges = [(r, reply)] ∧
        outcome = reply.map fun _ => result := by
  simp only [plays_bind_iff, plays_ask_iff, plays_pure_iff]
  constructor
  · rintro (⟨fault, rfl, rfl⟩ | ⟨stored, _, _, rfl, ⟨rfl, rfl⟩, rfl⟩)
    · exact ⟨.error fault, rfl, rfl⟩
    · exact ⟨.ok stored, rfl, rfl⟩
  · rintro ⟨fault | stored, rfl, rfl⟩
    · exact .inl ⟨fault, rfl, rfl⟩
    · exact .inr ⟨stored, _, [], rfl, ⟨rfl, rfl⟩, rfl⟩

/-- A missing object is created if the revision takes control and the manifest for it can be made,
and nothing is asked otherwise. -/
theorem plays_create {outcome : Except Fault (Value × Outcome)} (formed : Manifest.Formed desired)
    (plays : (pass.create desired).Plays exchanges outcome) :
    (pass.takesControl = false ∧ exchanges = [] ∧ outcome = .ok (desired, .skipped)) ∨
      pass.takesControl = true ∧
        ((∃ fault, pass.addition desired = .error fault ∧ exchanges = [] ∧
            outcome = .error fault) ∨
          ∃ target reply, pass.addition desired = .ok target ∧
            exchanges = [(.create target, reply)] ∧
            outcome = reply.map fun _ => (target, .created)) := by
  rw [create] at plays
  cases control : pass.takesControl with
  | false =>
    obtain ⟨identity, named⟩ := formed.exists_identity
    rw [if_neg (by simp [control]), named] at plays
    obtain ⟨rfl, rfl⟩ := plays
    exact .inl ⟨rfl, rfl, rfl⟩
  | true =>
    rw [if_pos control] at plays
    refine .inr ⟨rfl, ?_⟩
    cases made : pass.addition desired with
    | error fault =>
      obtain ⟨rfl, rfl⟩ := (plays_bind_of_error made).mp plays
      exact .inl ⟨fault, rfl, rfl, rfl⟩
    | ok target =>
      obtain ⟨reply, rfl, rfl⟩ := plays_write_iff.mp ((plays_bind_of_ok made).mp plays)
      exact .inr ⟨target, reply, rfl, rfl, rfl⟩

private theorem applies_of_plays_create {missing : Fault}
    {outcome : Except Fault (Value × Outcome)} (formed : Manifest.Formed desired)
    (isMissing : missing.isObjectMissing = true)
    (plays : (pass.create desired).Plays exchanges outcome) :
    pass.Applies desired ((request desired, .error missing) :: exchanges) (outcome.map (·.2)) ∧
      ∀ result, outcome = .ok result → Manifest.Formed result.1 := by
  obtain ⟨mere, rfl, rfl⟩ | ⟨control, ⟨fault, unmade, rfl, rfl⟩ | ⟨target, reply, made, rfl, rfl⟩⟩ :=
    plays_create formed plays
  · refine ⟨.skipped isMissing mere, ?_⟩
    rintro _ ⟨⟩
    exact formed
  · exact ⟨.unmade isMissing control unmade, by simp⟩
  · cases reply with
    | error fault => exact ⟨.created isMissing control made (.error fault), by simp [Except.map]⟩
    | ok stored =>
      refine ⟨.created isMissing control made (.ok stored), ?_⟩
      rintro _ ⟨⟩
      exact (agree_of_owned made formed).left

/-- A replacement is written if it can be made, and nothing is asked if it cannot. -/
theorem plays_update {current : Value} {outcome : Except Fault (Value × Outcome)}
    (plays : (pass.update current desired).Plays exchanges outcome) :
    (∃ fault, pass.replacement current desired = .error fault ∧ exchanges = [] ∧
        outcome = .error fault) ∨
      ∃ target reply, pass.replacement current desired = .ok target ∧
        exchanges = [(.update target, reply)] ∧
        outcome = reply.map fun _ => (if pass.takesControl then target else desired, .updated) := by
  rw [update] at plays
  rw [replacement]
  cases control : pass.takesControl with
  | false =>
    simp only [control, Bool.false_eq_true, if_false] at plays ⊢
    cases made : (pass.owned false current current).outcome with
    | error fault =>
      obtain ⟨rfl, rfl⟩ := (plays_bind_of_error made).mp plays
      exact .inl ⟨fault, rfl, rfl, rfl⟩
    | ok target =>
      obtain ⟨reply, rfl, rfl⟩ := plays_write_iff.mp ((plays_bind_of_ok made).mp plays)
      exact .inr ⟨target, reply, rfl, rfl, rfl⟩
  | true =>
    simp only [control, if_true] at plays ⊢
    cases renewed : atVersion current desired with
    | error fault =>
      rw [renewed] at plays
      obtain ⟨rfl, rfl⟩ := plays
      exact .inl ⟨fault, rfl, rfl, rfl⟩
    | ok versioned =>
      rw [renewed, lift_ok_bind] at plays
      rw [ok_bind]
      cases made : (pass.owned true current versioned).outcome with
      | error fault =>
        obtain ⟨rfl, rfl⟩ := (plays_bind_of_error made).mp plays
        exact .inl ⟨fault, rfl, rfl, rfl⟩
      | ok target =>
        obtain ⟨reply, rfl, rfl⟩ := plays_write_iff.mp ((plays_bind_of_ok made).mp plays)
        exact .inr ⟨target, reply, rfl, rfl, rfl⟩

private theorem applies_of_plays_update {current : Value}
    {outcome : Except Fault (Value × Outcome)} (formed : Manifest.Formed desired)
    (plays : (pass.update current desired).Plays exchanges outcome) :
    pass.Applies desired ((request desired, .ok current) :: exchanges) (outcome.map (·.2)) ∧
      ∀ result, outcome = .ok result → Manifest.Formed result.1 := by
  obtain ⟨fault, unmade, rfl, rfl⟩ | ⟨target, reply, made, rfl, rfl⟩ := plays_update plays
  · exact ⟨.unchanged unmade, by simp⟩
  · cases reply with
    | error fault => exact ⟨.updated made (.error fault), by simp [Except.map]⟩
    | ok stored =>
      refine ⟨.updated made (.ok stored), ?_⟩
      rintro _ ⟨⟩
      cases control : pass.takesControl with
      | false => simpa using formed
      | true => simpa using (agree_of_replacement control made formed).left

/-- A desired object is read, and the reply says how to go on. A reply of null is as good as one
that says that the object is missing. -/
theorem plays_apply_cases {r : Request} {outcome : Except Fault (Value × Outcome)}
    (read : reading desired = .ok r) (plays : (pass.apply desired).Plays exchanges outcome) :
    ∃ reply later, exchanges = (r, reply) :: later ∧
      ((∃ fault, reply = .error fault ∧ fault.isObjectMissing = false ∧ later = [] ∧
          outcome = .error fault) ∨
        (∀ fault, reply = .error fault → fault.isObjectMissing = true) ∧
          (∀ current, reply = .ok current → current.isNull = true) ∧
          (pass.create desired).Plays later outcome ∨
        ∃ current, reply = .ok current ∧ current.isNull = false ∧
          (pass.update current desired).Plays later outcome) := by
  rw [apply, read] at plays
  obtain ⟨reply, later, rfl, plays⟩ := plays
  refine ⟨reply, later, rfl, ?_⟩
  cases reply with
  | error fault =>
    replace plays : (if fault.isObjectMissing then pass.create desired else .fail fault).Plays
      later outcome := plays
    cases missing : fault.isObjectMissing with
    | true =>
      rw [if_pos missing] at plays
      exact .inr (.inl ⟨by simp [missing], by simp, plays⟩)
    | false =>
      rw [if_neg (by simp [missing])] at plays
      exact .inl ⟨fault, rfl, missing, plays.1, plays.2⟩
  | ok current =>
    replace plays : (if current.isNull then pass.create desired else
      pass.update current desired).Plays later outcome := plays
    cases null : current.isNull with
    | true =>
      rw [if_pos null] at plays
      exact .inr (.inl ⟨by simp, by simp [null], plays⟩)
    | false =>
      rw [if_neg (by simp [null])] at plays
      exact .inr (.inr ⟨current, rfl, null, plays⟩)

/-- A desired object is read and then written as the reply demands. -/
theorem applies_of_plays {outcome : Except Fault (Value × Outcome)}
    (formed : Manifest.Formed desired) (plays : (pass.apply desired).Plays exchanges outcome)
    (standIn : ∀ exchange ∈ exchanges, Rule.standsIn exchange.2 = true) :
    pass.Applies desired exchanges (outcome.map (·.2)) ∧
      ∀ result, outcome = .ok result → Manifest.Formed result.1 := by
  obtain ⟨reply, later, rfl, ⟨fault, rfl, other, rfl, rfl⟩ | ⟨missing, null, created⟩ |
    ⟨current, rfl, _, updated⟩⟩ := plays_apply_cases (reading_eq formed) plays
  · exact ⟨.refused other, by simp⟩
  · have here : Rule.standsIn reply = true := (List.forall_mem_cons.mp standIn).1
    cases reply with
    | error fault => exact applies_of_plays_create formed (missing fault rfl) created
    | ok current => simp [Rule.standsIn, null current rfl] at here
  · exact applies_of_plays_update formed updated

private theorem plays_reported {result : Value × Outcome} {outcome : Except Fault Established}
    (formed : Manifest.Formed result.1) (event : TypedReference → String → Log.Event)
    (plays : (do
      let reference ← TypedReference.ofManifest result.1
      let identity ← Manifest.identity result.1
      .report (event reference identity) (pure ⟨reference, result.2⟩) :
        Interaction Request Value Established).Plays exchanges outcome) :
    exchanges = [] ∧ outcome.map (·.outcome) = .ok result.2 := by
  obtain ⟨identity, named⟩ := formed.exists_identity
  rw [formed.reference_eq, named] at plays
  obtain ⟨rfl, rfl⟩ := plays
  exact ⟨rfl, rfl⟩

/-- One declared object is prepared, read once and written once at most. -/
theorem calls_of_plays {outcome : Except Fault Established}
    (plays : (pass.establishOne declared).Plays exchanges outcome)
    (standIn : ∀ exchange ∈ exchanges, Rule.standsIn exchange.2 = true) :
    pass.Calls declared exchanges (outcome.map (·.outcome)) := by
  rw [establishOne] at plays
  cases prepared : (pass.prepare declared).outcome with
  | error fault =>
    obtain ⟨rfl, rfl⟩ := (plays_bind_of_error prepared).mp plays
    exact .unread (by rw [prepared]; rfl)
  | ok desired =>
    replace plays := (plays_bind_of_ok prepared).mp plays
    cases read : reading desired with
    | error fault =>
      rw [apply, read] at plays
      obtain ⟨rfl, rfl⟩ := plays
      exact .unread (by rw [prepared]; exact read)
    | ok r =>
      have formed := formed_of_reading read
      obtain ⟨fault, applied, rfl⟩ | ⟨⟨final, outcome⟩, early, late, applied, reported, rfl⟩ :=
        plays_bind_iff.mp plays
      · exact .applied (ready prepared formed) (applies_of_plays formed applied standIn).1
      · obtain ⟨applies, formed'⟩ := applies_of_plays formed applied fun exchange member =>
          standIn exchange (List.mem_append_left _ member)
        obtain ⟨rfl, same⟩ := plays_reported (formed' _ rfl) _ reported
        rw [List.append_nil, same]
        exact .applied (ready prepared formed) applies

/-- The declared objects of a pass are established in order up to the first fault. -/
theorem callsAll_of_plays {outcomes : Except Fault (List Established)}
    (plays : (pass.establishAll objects).Plays exchanges outcomes)
    (standIn : ∀ exchange ∈ exchanges, Rule.standsIn exchange.2 = true) :
    pass.CallsAll objects exchanges (outcomes.map (List.map (·.outcome))) := by
  induction objects generalizing exchanges outcomes with
  | nil =>
    obtain ⟨rfl, rfl⟩ := plays
    exact .done
  | cons declared rest ih =>
    rw [establishAll] at plays
    obtain ⟨fault, one, rfl⟩ | ⟨result, early, late, one, others, rfl⟩ := plays_bind_iff.mp plays
    · exact .stopped (calls_of_plays one standIn)
    · obtain ⟨standIn', standIn⟩ := List.forall_mem_append.mp standIn
      obtain ⟨fault, all, rfl⟩ | ⟨results, _, _, all, ⟨rfl, rfl⟩, rfl⟩ := plays_bind_iff.mp others
      · exact .next (calls_of_plays one standIn') (ih all standIn)
      · rw [List.append_nil] at standIn ⊢
        exact .next (calls_of_plays one standIn') (ih all standIn)

theorem Applies.writes_le (applies : pass.Applies desired exchanges outcome) :
    exchanges.countP (·.1.isWrite) ≤ 1 := by
  cases applies <;> simp [request, Request.isWrite]

theorem Calls.writes_le (calls : pass.Calls declared exchanges outcome) :
    exchanges.countP (·.1.isWrite) ≤ 1 := by
  cases calls with
  | unread => decide
  | applied _ applies => exact applies.writes_le

/-- No more objects are written than declared. -/
theorem CallsAll.writes_le (calls : pass.CallsAll objects exchanges outcomes) :
    exchanges.countP (·.1.isWrite) ≤ objects.length := by
  induction calls with
  | done => exact Nat.le_refl 0
  | stopped one =>
    have one := one.writes_le
    rw [List.length_cons]
    omega
  | next one _ ih =>
    have one := one.writes_le
    rw [List.countP_append, List.length_cons]
    omega

theorem Calls.creates_nothing (calls : pass.Calls declared exchanges outcome)
    (mere : pass.takesControl = false) :
    ∀ exchange ∈ exchanges, ∀ definition, exchange.1 ≠ .create definition := by
  cases calls with
  | unread => simp
  | applied _ applies =>
    cases applies with
    | created _ control => simp [mere] at control
    | _ => simp [request]

/-- A pass that does not take control creates nothing. -/
theorem CallsAll.creates_nothing (calls : pass.CallsAll objects exchanges outcomes)
    (mere : pass.takesControl = false) :
    ∀ exchange ∈ exchanges, ∀ definition, exchange.1 ≠ .create definition := by
  induction calls with
  | done => simp
  | stopped one => exact one.creates_nothing mere
  | next one _ ih => exact List.forall_mem_append.mpr ⟨one.creates_nothing mere, ih⟩

end Pass

namespace Undertaking

variable {undertaking : Undertaking} {outcomes : Except Fault (List Outcome)}

/-- What the reply to the read of the secret makes of the bundle. -/
def bundleOf (undertaking : Undertaking) :
    Except Fault Value → Except Fault (Option Webhook.CABundle)
  | .error cause => .error (.secretUnreadable Problem.secretUnreadable.defaultMessage cause)
  | .ok secret => (Webhook.CABundle.ofSecret (undertaking.establisher.certificateKey.orElse
      (undertaking.settings.value .webhookCertificateKey)) secret).map some

/-- What is asked for the bundle: the secret, if the revision names one. -/
inductive Fetches (undertaking : Undertaking) :
    List (Request × Except Fault Value) → Except Fault (Option Webhook.CABundle) → Prop where
  | unread {fault : Fault} (fails : undertaking.parent.secretName = .error fault) :
      Fetches undertaking [] (.error fault)
  | unnamed {name : Value} (named : undertaking.parent.secretName = .ok name)
      (blank : name.truthy = false) : Fetches undertaking [] (.ok none)
  | asked {name : Value} (named : undertaking.parent.secretName = .ok name)
      (given : name.truthy = true) (reply : Except Fault Value) :
      Fetches undertaking [(.get (.text "v1") (.text "Secret") name undertaking.scope, reply)]
        (undertaking.bundleOf reply)

/-- What a whole pass asks, and how it ends: the bundle comes first, a pass that needs one and has
none is refused, and then the declared objects follow. -/
inductive Protocol (undertaking : Undertaking) :
    List (Request × Except Fault Value) → Except Fault (List Outcome) → Prop where
  | unfetched {exchanges : List (Request × Except Fault Value)} {fault : Fault}
      (fetched : undertaking.Fetches exchanges (.error fault)) :
      Protocol undertaking exchanges (.error fault)
  | rejected {exchanges : List (Request × Except Fault Value)} {fault : Fault}
      (fetched : undertaking.Fetches exchanges (.ok none))
      (refused : (Establisher.refuseConversion undertaking.objects).outcome = .error fault) :
      Protocol undertaking exchanges (.error fault)
  | conducted {early late : List (Request × Except Fault Value)}
      {bundle : Option Webhook.CABundle} {outcomes : Except Fault (List Outcome)}
      (fetched : undertaking.Fetches early (.ok bundle))
      (accepted : bundle = none →
        (Establisher.refuseConversion undertaking.objects).outcome = .ok ())
      (all : (undertaking.pass bundle).CallsAll undertaking.objects late outcomes) :
      Protocol undertaking (early ++ late) outcomes

theorem fetches_of_plays {outcome : Except Fault (Option Webhook.CABundle)}
    (plays : undertaking.fetch.Plays exchanges outcome) :
    undertaking.Fetches exchanges outcome := by
  rw [fetch, Webhook.CABundle.fetch] at plays
  cases named : undertaking.parent.secretName with
  | error fault =>
    rw [named] at plays
    obtain ⟨rfl, rfl⟩ := plays
    exact .unread named
  | ok name =>
    rw [named, lift_ok_bind] at plays
    cases given : name.truthy with
    | false =>
      obtain ⟨rfl, rfl⟩ : exchanges = [] ∧ outcome = .ok none := by simpa [given] using plays
      exact .unnamed named given
    | true =>
      simp only [given, Bool.not_true, Bool.false_eq_true, if_false] at plays
      obtain ⟨reply, later, rfl, plays⟩ := plays
      obtain ⟨rfl, rfl⟩ : later = [] ∧ outcome = undertaking.bundleOf reply := by
        cases reply with
        | error cause => exact plays
        | ok secret => exact plays_ofExcept_iff.mp plays
      exact .asked named given reply

/-- Fetching the bundle writes nothing, and asks for no more than the secret. -/
theorem Fetches.reads {outcome : Except Fault (Option Webhook.CABundle)}
    (fetches : undertaking.Fetches exchanges outcome) :
    ∀ exchange ∈ exchanges, exchange.1.isWrite = false := by
  cases fetches <;> simp [Request.isWrite]

/-- A pass ends where the bundle cannot be fetched, or where it is refused without one, or with its
objects. -/
theorem plays_activity_cases {outcome : Except Fault (List Established)}
    (plays : undertaking.activity.Plays exchanges outcome) :
    (∃ fault, undertaking.fetch.Plays exchanges (.error fault) ∧ outcome = .error fault) ∨
      (∃ fault, undertaking.fetch.Plays exchanges (.ok none) ∧
        (Establisher.refuseConversion undertaking.objects).outcome = .error fault ∧
        outcome = .error fault) ∨
      ∃ bundle early late, undertaking.fetch.Plays early (.ok bundle) ∧
        (bundle = none → (Establisher.refuseConversion undertaking.objects).outcome = .ok ()) ∧
        ((undertaking.pass bundle).establishAll undertaking.objects).Plays late outcome ∧
        exchanges = early ++ late := by
  obtain ⟨event, same⟩ := undertaking.exists_activity_eq
  rw [same, Establisher.titled, plays_titled_iff, plays_bind_iff] at plays
  obtain ⟨fault, fetched, rfl⟩ | ⟨bundle, early, late, fetched, conducted, rfl⟩ := plays
  · exact .inl ⟨fault, fetched, rfl⟩
  · have concluded {exchanges} (plays : ((undertaking.pass bundle).establishAll undertaking.objects
        >>= fun results => .report (event results) (pure results)).Plays exchanges outcome) :
        ((undertaking.pass bundle).establishAll undertaking.objects).Plays exchanges outcome := by
      obtain ⟨fault, all, rfl⟩ | ⟨results, _, _, all, ⟨rfl, rfl⟩, rfl⟩ := plays_bind_iff.mp plays
      · exact all
      · rwa [List.append_nil]
    cases bundle with
    | some bundle =>
      exact .inr (.inr ⟨_, early, late, fetched, by simp, concluded conducted, rfl⟩)
    | none =>
      cases refused : (Establisher.refuseConversion undertaking.objects).outcome with
      | error fault =>
        obtain ⟨rfl, rfl⟩ := (plays_bind_of_error refused).mp conducted
        rw [List.append_nil]
        exact .inr (.inl ⟨fault, fetched, rfl, rfl⟩)
      | ok done =>
        have conducted := concluded ((plays_bind_of_ok refused).mp conducted)
        exact .inr (.inr ⟨none, early, late, fetched, fun _ => rfl, conducted, rfl⟩)

/-- A pass conducts what the fetched bundle allows. -/
theorem protocol_of_plays {outcome : Except Fault (List Established)}
    (plays : undertaking.activity.Plays exchanges outcome)
    (standIn : ∀ exchange ∈ exchanges, Rule.standsIn exchange.2 = true) :
    undertaking.Protocol exchanges (outcome.map (List.map (·.outcome))) := by
  obtain ⟨fault, fetched, rfl⟩ | ⟨fault, fetched, refused, rfl⟩ |
    ⟨bundle, early, late, fetched, accepted, all, rfl⟩ := plays_activity_cases plays
  · exact .unfetched (fetches_of_plays fetched)
  · exact .rejected (fetches_of_plays fetched) refused
  · have standIn := (List.forall_mem_append.mp standIn).2
    exact .conducted (fetches_of_plays fetched) accepted (Pass.callsAll_of_plays all standIn)

/-- No more objects are written than declared. -/
theorem Protocol.writes_le (protocol : undertaking.Protocol exchanges outcomes) :
    exchanges.countP (·.1.isWrite) ≤ undertaking.objects.length := by
  have reads {early : List (Request × Except Fault Value)}
      {bundle : Except Fault (Option Webhook.CABundle)} (fetched : undertaking.Fetches early bundle) :
      early.countP (·.1.isWrite) = 0 := by
    rw [List.countP_eq_zero]
    intro exchange member
    simp [fetched.reads exchange member]
  cases protocol with
  | unfetched fetched => simp [reads fetched]
  | rejected fetched => simp [reads fetched]
  | conducted fetched _ all =>
    rw [List.countP_append, reads fetched, Nat.zero_add]
    exact all.writes_le

/-- A pass that does not take control creates nothing. -/
theorem Protocol.creates_nothing (protocol : undertaking.Protocol exchanges outcomes)
    (mere : undertaking.takesControl = false) :
    ∀ exchange ∈ exchanges, ∀ definition, exchange.1 ≠ .create definition := by
  have reads {early : List (Request × Except Fault Value)}
      {bundle : Except Fault (Option Webhook.CABundle)} (fetched : undertaking.Fetches early bundle) :
      ∀ exchange ∈ early, ∀ definition, exchange.1 ≠ .create definition := by
    intro exchange member definition creates
    simpa [creates, Request.isWrite] using fetched.reads exchange member
  cases protocol with
  | unfetched fetched => exact reads fetched
  | rejected fetched => exact reads fetched
  | conducted fetched _ all =>
    exact List.forall_mem_append.mpr ⟨reads fetched, all.creates_nothing mere⟩

/-- Whatever a party with a store inside replies, a pass keeps to the protocol: it creates nothing
without control and writes no more often than there are declared objects. -/
theorem keeps_protocol {σ : Type} {issuer : Issuer} {inside : σ → Memory}
    {answer : σ → Request → Answer σ Value} {source : σ} (undertaking : Undertaking)
    (wraps : Wraps issuer inside answer) (reachable : (inside source).Reachable issuer) :
    undertaking.Protocol (undertaking.activity.run answer source).exchanges
        ((undertaking.activity.run answer source).outcome.map (List.map (·.outcome))) ∧
      (undertaking.takesControl = false →
        ∀ exchange ∈ (undertaking.activity.run answer source).exchanges,
          ∀ definition, exchange.1 ≠ .create definition) ∧
      (undertaking.activity.run answer source).exchanges.countP (·.1.isWrite) ≤
        undertaking.objects.length := by
  obtain ⟨_, standIn⟩ := wraps.of_answers reachable.sound
    (answers_run answer source undertaking.activity)
  have protocol := protocol_of_plays (plays_run answer source undertaking.activity) standIn
  exact ⟨protocol, protocol.creates_nothing, protocol.writes_le⟩

/-- A revision joins the owners of an object that the store fails to write. -/
theorem keeps_protocol_refusing : ∃ store course,
    store = Scripted.refusing "a" ((Memory.empty true).answer Memory.numerals
      (.create (bare "a"))).state ∧
    (ofNames "r" ["a", "b"] false).activity.run (Scripted.answer Memory.numerals) store = course ∧
    (ofNames "r" ["a", "b"] false).Protocol course.exchanges (.error (.problem .cluster "down")) ∧
    (∀ exchange ∈ course.exchanges, ∀ definition, exchange.1 ≠ .create definition) ∧
    course.exchanges.length = 2 ∧ course.exchanges.countP (·.1.isWrite) ≤ 2 := by
  have start : Memory.Reachable Memory.numerals (Memory.empty true) :=
    .start (show Memory.ofResources Memory.numerals true [] = .ok _ from rfl)
  have reachable : (Scripted.refusing "a" ((Memory.empty true).answer Memory.numerals
      (.create (bare "a"))).state).memory.Reachable Memory.numerals :=
    start.answer (.create (bare "a"))
  obtain ⟨protocol, creates, writes⟩ := keeps_protocol (ofNames "r" ["a", "b"] false)
    (Scripted.wraps Memory.numerals) reachable
  exact ⟨_, _, rfl, rfl, protocol, creates rfl, rfl, writes⟩

end Undertaking

end ManifestOwnership
