import ManifestOwnership.Proofs.Establish.Run

/-! # What a pass asks of a store

A pass that shares a store with others sees what it has read and nothing else. `Careful` is a
predicate on the tree of its requests, whatever the replies are: it creates objects with orderly
owners only, and updates an object only with a manifest that `Continues` one it has read. Every pass
is careful, which is all that is needed of it when its requests are mixed with those of others.
-/

namespace ManifestOwnership

open Store Interaction

variable {α β : Type} {known known' : Value → Prop} {current desired definition : Value}

/-- A manifest that takes the place of the object it was made from: it has the identity and the
version of that object, and its owners with a parent merged among them. -/
structure Continues (current definition : Value) : Prop where
  formed : Manifest.Formed definition
  sameKey : ∃ own key, Manifest.key current = .ok own ∧ Manifest.key definition = .ok key ∧
    key.same own = true
  sameVersion : Fields.get definition.metadata "resourceVersion" =
    Fields.get current.metadata "resourceVersion"
  owners : ∃ (parent : OwnerReference) (control : Bool) (refs : List OwnerReference),
    Manifest.owners current = .ok refs ∧
      Manifest.owners definition = .ok (parent.merge control refs)

/-- A request that loses no owner, given the objects that are known from replies. -/
inductive Admissible (known : Value → Prop) : Request → Prop where
  | get {apiVersion kind name scope : Value} :
      Admissible known (.get apiVersion kind name scope)
  | create {definition : Value} {refs : List OwnerReference} (formed : Manifest.Formed definition)
      (owners : Manifest.owners definition = .ok refs) (orderly : OwnerReference.Orderly refs) :
      Admissible known (.create definition)
  | update {current definition : Value} (read : known current)
      (continues : Continues current definition) : Admissible known (.update definition)

def learned (known : Value → Prop) (reply : Except Fault Value) (object : Value) : Prop :=
  known object ∨ reply = .ok object

/-- An activity that makes admissible requests only, whatever plausible replies it gets. Where it
ends, its result and what it knows then satisfy a condition. -/
def Careful (post : (Value → Prop) → α → Prop) (known : Value → Prop) :
    Interaction Request Value α → Prop
  | .done a => post known a
  | .fail _ => True
  | .report _ rest => Careful post known rest
  | .request r resume => Admissible known r ∧ ∀ reply, r.Plausible reply →
      Careful post (learned known reply) (resume reply)

section

variable {post post' : (Value → Prop) → α → Prop} {activity : Interaction Request Value α}

@[simp] theorem careful_pure_iff {a : α} :
    Careful post known (pure a : Interaction Request Value α) ↔ post known a := Iff.rfl

@[simp] theorem careful_fail {fault : Fault} :
    Careful post known (.fail fault : Interaction Request Value α) := trivial

@[simp] theorem careful_report_iff {event : Log.Event} :
    Careful post known (.report event activity) ↔ Careful post known activity := Iff.rfl

/-- A sequence is careful if the first part ends where the second one is careful. -/
@[simp] theorem careful_bind_iff {next : α → Interaction Request Value β}
    {post : (Value → Prop) → β → Prop} : Careful post known (activity >>= next) ↔
      Careful (fun known a => Careful post known (next a)) known activity := by
  change Careful post known (activity.bind next) ↔ _
  induction activity generalizing known with
  | done a => exact Iff.rfl
  | fail fault => exact Iff.rfl
  | report event rest ih => exact ih
  | request r resume ih =>
    exact and_congr_right fun _ => forall_congr' fun reply => imp_congr_right fun _ => ih reply

@[simp] theorem careful_ofExcept_iff {outcome : Except Fault α} :
    Careful post known (Interaction.ofExcept outcome) ↔ ∀ a, outcome = .ok a → post known a := by
  cases outcome <;> simp [Interaction.ofExcept, Careful]

@[simp] theorem careful_lift_iff {outcome : Except Fault α} :
    Careful post known (liftM outcome) ↔ ∀ a, outcome = .ok a → post known a :=
  careful_ofExcept_iff

@[simp] theorem careful_liftReported_iff {reported : Log.Reported α} :
    Careful post known (liftM reported) ↔ ∀ a, reported.outcome = .ok a → post known a := by
  change Careful post known (ofReported reported) ↔ _
  obtain ⟨events, outcome⟩ := reported
  simp only [ofReported, reportAll]
  induction events with
  | nil => exact careful_ofExcept_iff
  | cons event rest ih => rw [List.foldr_cons, careful_report_iff, ih]

@[simp] theorem careful_titled_iff {channel : Log.Channel} {level : Log.Level} {title : String} :
    Careful post known (activity.titled channel level title) ↔ Careful post known activity := by
  rw [titled, careful_report_iff]
  induction activity generalizing known with
  | done a => exact Iff.rfl
  | fail fault => exact Iff.rfl
  | report event rest ih => exact ih
  | request r resume ih =>
    exact and_congr_right fun _ => forall_congr' fun reply => imp_congr_right fun _ => ih reply

theorem Careful.mono (careful : Careful post known activity)
    (weaker : ∀ known a, post known a → post' known a) : Careful post' known activity := by
  induction activity generalizing known with
  | done a => exact weaker known a careful
  | fail fault => trivial
  | report event rest ih => exact ih careful
  | request r resume ih =>
    exact ⟨careful.1, fun reply fits => ih reply (careful.2 reply fits)⟩

/-- One admissible request that any reply to will do for. -/
theorem careful_ask {r : Request} {post : (Value → Prop) → Value → Prop}
    (admissible : Admissible known r) (all : ∀ known object, post known object) :
    Careful post known (ask r) :=
  ⟨admissible, fun _ _ => careful_ofExcept_iff.mpr fun _ _ => all _ _⟩

end

namespace Pass

variable {pass : Pass} {declared : Value} {key : ObjectKey} {versions : Nat}

/-- A missing object is created with orderly owners if the declared ones are distinct. -/
theorem careful_create (formed : Manifest.Formed desired)
    (distinct : ∀ refs, Manifest.owners desired = .ok refs →
      refs.Pairwise fun first second => first.sameKey second = false) :
    Careful (fun _ _ => True) known (pass.create desired) := by
  rw [create]
  cases control : pass.takesControl with
  | false => simp
  | true =>
    simp only [if_true, careful_bind_iff, careful_liftReported_iff]
    intro target owned
    obtain ⟨refs, owners, rfl⟩ := (outcome_owned_eq_ok_iff control formed).mp owned
    refine careful_ask (.create (agree_target formed refs).left (owners_target formed owners) ?_)
      fun _ _ => trivial
    rw [control]
    exact OwnerReference.orderly_takeControl (distinct refs owners)

/-- A target made from an object that was read continues that object. -/
theorem continues_target {base : Value} {own : ObjectKey} {refs : List OwnerReference}
    (formed : Manifest.Formed base) (held : Memory.Held versions key current)
    (atOwn : Manifest.key base = .ok own) (same : own.same key = true)
    (version : Fields.get base.metadata "resourceVersion" =
      Fields.get current.metadata "resourceVersion")
    (owners : Manifest.owners current = .ok refs) :
    Continues current (pass.target refs base) where
  formed := (agree_target formed refs).left
  sameKey := by
    obtain ⟨filed, atFiled, sameFiled⟩ := held.filed
    exact ⟨filed, own, atFiled, (key_target formed refs).trans atOwn,
      ObjectKey.same_trans same (ObjectKey.same_symm sameFiled)⟩
  sameVersion := ((agree_target formed refs).get (by decide)).trans version
  owners := ⟨_, _, refs, owners, owners_target formed owners⟩

/-- An object that was read is updated with a manifest that continues it. -/
theorem careful_update (read : known current) (formed : Manifest.Formed desired)
    (atKey : Manifest.key desired = .ok key) (held : Memory.Held versions key current) :
    Careful (fun _ _ => True) known (pass.update current desired) := by
  rw [update]
  cases control : pass.takesControl with
  | false =>
    simp only [Bool.false_eq_true, if_false, careful_bind_iff, careful_liftReported_iff]
    intro target owned
    obtain ⟨refs, owners, rfl⟩ := (outcome_owned_eq_ok_iff control held.formed).mp owned
    obtain ⟨own, atOwn, same⟩ := held.filed
    exact careful_ask (.update read (continues_target held.formed held atOwn same rfl owners))
      fun _ _ => trivial
  | true =>
    simp only [if_true, careful_bind_iff, careful_liftReported_iff, careful_lift_iff,
      atVersion_eq held.formed formed held.version_truthy, Except.ok.injEq]
    rintro _ rfl target owned
    have formed' := (agree_versioned formed current).left
    obtain ⟨refs, owners, rfl⟩ := (outcome_owned_eq_ok_iff control formed').mp owned
    refine careful_ask (.update read (continues_target formed' held
      ((key_versioned formed current).trans atKey) (ObjectKey.same_refl key) ?_ owners))
      fun _ _ => trivial
    rw [Manifest.versioned, formed.metadata_withMetadata, Fields.get_set_self]

/-- A desired object with distinct owners is applied with care. -/
theorem careful_apply (distinct : Manifest.Formed desired → ∀ refs,
      Manifest.owners desired = .ok refs →
        refs.Pairwise fun first second => first.sameKey second = false) :
    Careful (fun _ _ => True) known (pass.apply desired) := by
  simp only [apply, careful_bind_iff, careful_lift_iff]
  intro r reading
  have formed := formed_of_reading reading
  obtain rfl := Except.ok.inj ((reading_eq formed).symm.trans reading)
  refine ⟨.get, ?_⟩
  intro reply fits
  cases reply with
  | error fault =>
    rw [Careful]
    cases missing : fault.isObjectMissing with
    | true => simpa only [missing, if_true] using careful_create formed (distinct formed)
    | false => simp [missing]
  | ok current =>
    obtain ⟨key, versions, atKey, held⟩ := fits current rfl
    rw [Careful]
    simp only [held.formed.ne_null, Bool.false_eq_true, if_false]
    exact careful_update (.inr rfl) formed atKey held

theorem careful_establishOne (distinct : ∀ refs, Manifest.owners declared = .ok refs →
      refs.Pairwise fun first second => first.sameKey second = false) :
    Careful (fun _ _ => True) known (pass.establishOne declared) := by
  simp only [establishOne, careful_bind_iff, careful_liftReported_iff, careful_lift_iff,
    careful_report_iff, careful_pure_iff]
  intro desired prepared
  refine (careful_apply fun formed refs owners => ?_).mono (by simp)
  exact distinct refs ((owners_prepare prepared formed).symm.trans owners)

/-- Objects with distinct owners are established with care. -/
theorem careful_establishAll {objects : List Value} (distinct : ∀ declared ∈ objects, ∀ refs,
      Manifest.owners declared = .ok refs →
        refs.Pairwise fun first second => first.sameKey second = false) :
    Careful (fun _ _ => True) known (pass.establishAll objects) := by
  induction objects generalizing known with
  | nil => trivial
  | cons declared rest ih =>
    obtain ⟨here, there⟩ := List.forall_mem_cons.mp distinct
    simp only [establishAll, careful_bind_iff, careful_pure_iff]
    exact (careful_establishOne here).mono fun _ _ _ => ih there

end Pass

namespace Undertaking

variable {undertaking : Undertaking}

theorem careful_fetch : Careful (fun _ _ => True) known undertaking.fetch := by
  simp only [fetch, Webhook.CABundle.fetch, careful_bind_iff, careful_lift_iff]
  intro name _
  split
  · trivial
  · refine ⟨.get, ?_⟩
    intro reply _
    cases reply with
    | error fault => trivial
    | ok secret => exact careful_ofExcept_iff.mpr fun _ _ => trivial

/-- A whole pass over objects with distinct owners is careful. -/
theorem careful_activity (undertaking : Undertaking)
    (distinct : ∀ declared ∈ undertaking.objects, ∀ refs, Manifest.owners declared = .ok refs →
      refs.Pairwise fun first second => first.sameKey second = false) :
    Careful (fun _ _ => True) known undertaking.activity := by
  obtain ⟨event, same⟩ := undertaking.exists_activity_eq
  simp only [same, Establisher.titled, careful_titled_iff, careful_bind_iff, conduct]
  refine careful_fetch.mono ?_
  intro known bundle _
  cases bundle with
  | none =>
    simp only [Option.isNone_none, if_true, careful_bind_iff, careful_liftReported_iff,
      careful_report_iff, careful_pure_iff]
    exact fun _ _ => Pass.careful_establishAll distinct
  | some bundle =>
    simp only [Option.isNone_some, Bool.false_eq_true, if_false, careful_bind_iff,
      careful_report_iff, careful_pure_iff]
    exact Pass.careful_establishAll distinct

end Undertaking

end ManifestOwnership
