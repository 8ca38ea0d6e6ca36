import ManifestOwnership.Proofs.Play
import ManifestOwnership.Proofs.Establish.Preparation

/-! # Faults without a name

The faults by which values are found to be of no use (a field of something that is no object, an
unreadable certificate, a path through a text) report none of the problems of this library.
`Nameless` says of a piece of work that it can end in such faults only. All work on manifests is
nameless; what reports a problem is the fetching of the bundle, the refusal of a pass without one
and the store. `Interaction.Relays` says the same of an activity, up to the faults it is given in
reply.
-/

namespace ManifestOwnership

variable {α β : Type}

/-- Work that reports no problem of this library if it ends in a fault. -/
def Nameless (outcome : Except Fault α) : Prop :=
  ∀ fault, outcome = .error fault → fault.problem? = none

namespace Nameless

variable {outcome : Except Fault α} {fault : Fault}

@[simp] theorem ok (a : α) : Nameless (.ok a : Except Fault α) :=
  fun _ failure => nomatch failure

@[simp] theorem pure (a : α) : Nameless (pure a : Except Fault α) :=
  ok a

@[simp] theorem error_iff : Nameless (.error fault : Except Fault α) ↔ fault.problem? = none :=
  ⟨fun nameless => nameless fault rfl, fun unnamed _ failure => Except.error.inj failure ▸ unnamed⟩

@[simp] theorem bind_iff {next : α → Except Fault β} : Nameless (outcome >>= next) ↔
    Nameless outcome ∧ ∀ a, outcome = .ok a → Nameless (next a) := by
  cases outcome with
  | error fault =>
    have same : (Except.error fault >>= next) = .error fault := rfl
    rw [same]
    simp
  | ok a => simp

@[simp] theorem map_iff {f : α → β} : Nameless (outcome.map f) ↔ Nameless outcome := by
  cases outcome <;> simp [Except.map]

@[simp] theorem fmap_iff {f : α → β} : Nameless (f <$> outcome) ↔ Nameless outcome :=
  map_iff

@[simp] theorem ite_iff {condition : Prop} [Decidable condition] {other : Except Fault α} :
    Nameless (if condition then outcome else other) ↔
      (condition → Nameless outcome) ∧ (¬ condition → Nameless other) := by
  split_ifs with holds <;> simp [holds]

/-- Work done on each item of a list is nameless if it is so on every single one. -/
theorem mapM {step : α → Except Fault β} {items : List α}
    (each : ∀ item ∈ items, Nameless (step item)) : Nameless (items.mapM step) := by
  induction items with
  | nil => exact pure []
  | cons item rest ih =>
    obtain ⟨here, there⟩ := List.forall_mem_cons.mp each
    rw [List.mapM_cons]
    simp [here, ih there]

end Nameless

/-! ## Access to values -/

namespace Value

@[simp] theorem nameless_fields (value : Value) : Nameless value.fields := by
  cases value <;> simp [fields, Fault.problem?]

@[simp] theorem nameless_field (value : Value) (name : String) : Nameless (value.field name) := by
  simp [field]

@[simp] theorem nameless_fieldOrEmpty (value : Value) (name : String) :
    Nameless (value.fieldOrEmpty name) := by
  simp [fieldOrEmpty]

@[simp] theorem nameless_asKey (value : Value) : Nameless value.asKey := by
  simp [asKey, Fault.problem?]

@[simp] theorem nameless_fieldNamed (value name : Value) : Nameless (value.fieldNamed name) := by
  unfold fieldNamed
  split <;> simp [Fault.problem?]

@[simp] theorem nameless_setField (value new : Value) (name : String) :
    Nameless (value.setField name new) := by
  cases value <;> simp [setField, Fault.problem?]

@[simp] theorem nameless_givenElements (value : Value) : Nameless value.givenElements := by
  unfold givenElements
  cases value <;> simp [elements, Fault.problem?]

private theorem nameless_readBelow (trail : List String) (last : String) (fields : Fields)
    (parents : List String) : Nameless (Fields.readBelow trail last fields parents) := by
  induction parents generalizing trail fields with
  | nil => simp [Fields.readBelow]
  | cons part rest ih =>
    rw [Fields.readBelow]
    split
    · simp
    · simp
    · exact ih _ _
    · simp [Fault.problem?]

@[simp] theorem nameless_atOr (value fallback : Value) (path : Path) :
    Nameless (value.atOr path fallback) := by
  unfold atOr at?
  cases value <;> simp [nameless_readBelow, Fault.problem?]

@[simp] theorem nameless_setAt (value new : Value) (path : Path) :
    Nameless (value.setAt path new) := by
  cases value with
  | object fields =>
    rw [setAt_object, Nameless.map_iff]
    intro fault failure
    exact nameless_readBelow _ _ _ _ fault (Fields.writeBelow_eq_error_iff.mp failure)
  | _ =>
    simp only [setAt, putAt, Except.map]
    split_ifs <;> simp [Fault.problem?]

end Value

/-! ## Manifests and their owners -/

namespace Manifest

@[simp] theorem nameless_identity (definition : Value) : Nameless (identity definition) := by
  simp [identity]

@[simp] theorem nameless_groupOf (apiVersion : Value) : Nameless (groupOf apiVersion) := by
  unfold groupOf
  split
  · simp
  · split <;> simp [Fault.problem?]

@[simp] theorem nameless_owners (definition : Value) : Nameless (owners definition) := by
  have entry (value : Value) : Nameless (OwnerReference.ofValue value) := by
    simp [OwnerReference.ofValue]
  simp [owners, Nameless.mapM fun value _ => entry value]

@[simp] theorem nameless_setOwners (refs : List OwnerReference) (definition : Value) :
    Nameless (setOwners refs definition) := by
  simp [setOwners]

end Manifest

@[simp] theorem TypedReference.nameless_ofManifest (definition : Value) :
    Nameless (ofManifest definition) := by
  simp [ofManifest]

@[simp] theorem Store.ObjectKey.nameless_of (scope kind apiVersion name : Value) :
    Nameless (of scope kind apiVersion name) := by
  simp [of]

@[simp] theorem Revision.nameless_ofManifest (definition : Value) :
    Nameless (ofManifest definition) := by
  simp [ofManifest]

@[simp] theorem Revision.nameless_secretName (revision : Revision) :
    Nameless revision.secretName :=
  Value.nameless_atOr _ _ _

/-! ## Webhooks -/

namespace Webhook

@[simp] theorem nameless_isConfiguration (definition : Value) :
    Nameless (isConfiguration definition) := by
  simp [isConfiguration]

@[simp] theorem nameless_needsConversion (definition : Value) :
    Nameless (needsConversion definition) := by
  simp [needsConversion]

private theorem nameless_firstNamed (package : Value) (entries : List Value) :
    Nameless (PackageSearch.firstNamed package entries) := by
  induction entries with
  | nil => simp [PackageSearch.firstNamed]
  | cons entry rest ih => simp [PackageSearch.firstNamed, OwnerReference.ofValue, ih]

@[simp] theorem nameless_naming (settings : Settings) (lead label definition revision : Value) :
    Nameless (Naming.run settings lead label definition revision) := by
  have build (lead : Value) (package : OwnerReference) : Nameless (Naming.build lead package) := by
    unfold Naming.build
    split <;> simp [Fault.problem?]
  have search : Nameless (PackageSearch.run settings label revision) := by
    simp only [PackageSearch.run, Nameless.bind_iff, Nameless.ite_iff, Value.nameless_fieldOrEmpty,
      Value.nameless_fieldNamed, Value.nameless_field, Value.nameless_givenElements,
      nameless_firstNamed, Nameless.pure, implies_true, true_and]
    intros
    split <;> simp
  simp only [Naming.run, Nameless.bind_iff, Nameless.ite_iff, Value.nameless_fieldOrEmpty,
    Value.nameless_field, nameless_isConfiguration, search, Nameless.pure, implies_true, true_and]
  intros
  split <;> simp [build]

namespace Injection

private theorem nameless_fillConfig (encoded : Value) (service : Service) (config : Value) :
    Nameless (fillConfig encoded service config).outcome := by
  have pointed (fields : Fields) : Nameless (pointAt service fields).outcome := by
    unfold pointAt
    split <;> simp [Fault.problem?]
  cases config with
  | object fields =>
    simp only [fillConfig]
    split <;> simp [pointed]
  | _ => simp [fillConfig, Fault.problem?]

private theorem nameless_intoConfiguration (encoded : Value) (service : Service)
    (definition : Value) : Nameless (intoConfiguration encoded service definition).1.outcome := by
  have ensured (webhook : Value) : Nameless (ensureConfig webhook).outcome := by
    cases webhook with
    | object fields =>
      rw [ensureConfig]
      split_ifs <;> simp
    | _ => simp [ensureConfig, Fault.problem?]
  have filled (webhook : Value) : Nameless (fillWebhook encoded service webhook).outcome := by
    cases webhook <;> simp [fillWebhook, nameless_fillConfig, Fault.problem?]
  unfold intoConfiguration
  split
  · split
    · split_ifs
      · simp
      · simp [Nameless.mapM fun webhook _ => ensured webhook,
          Nameless.mapM fun webhook _ => filled webhook]
    all_goals simp [Fault.problem?]
  · simp [Fault.problem?]

@[simp] theorem nameless_run (bundle : CABundle) (service : Service) (definition : Value) :
    Nameless (run bundle service definition).change.outcome := by
  have classified := nameless_isConfiguration definition
  have judged := nameless_needsConversion definition
  rw [run]
  split
  · next fault unclassified => exact Nameless.error_iff.mpr (classified fault unclassified)
  · exact nameless_intoConfiguration _ service definition
  · split
    · next fault unjudged => exact Nameless.error_iff.mpr (judged fault unjudged)
    · simp [outcome_intoConversion, nameless_fillConfig]
    · simp

end Injection

@[simp] theorem nameless_inject (service : Service) (bundle : Option CABundle)
    (definition : Value) : Nameless (service.inject bundle definition) := by
  cases bundle <;> simp [Service.inject]

end Webhook

/-! ## The steps of a pass -/

namespace Pass

variable {pass : Pass}

@[simp] theorem nameless_withMetadata (declared : Value) : Nameless (withMetadata declared) := by
  simp [withMetadata]

@[simp] theorem nameless_prepare (pass : Pass) (declared : Value) :
    Nameless (pass.prepare declared).outcome := by
  simp [outcome_prepare, Establisher.renamed]

@[simp] theorem nameless_reading (desired : Value) : Nameless (reading desired) := by
  simp [reading]

@[simp] theorem nameless_owned (pass : Pass) (control : Bool) (object target : Value) :
    Nameless (pass.owned control object target).outcome := by
  rw [owned]
  cases control <;> simp

@[simp] theorem nameless_atVersion (current desired : Value) :
    Nameless (atVersion current desired) := by
  simp [atVersion]

end Pass

/-! ## Activities -/

namespace Interaction

variable {ρ ω : Type} {activity : Interaction ρ ω α}

/-- If an activity ends in a fault that reports a problem, it has been given the fault in reply. -/
def Relays (activity : Interaction ρ ω α) : Prop :=
  ∀ exchanges fault, activity.Plays exchanges (.error fault) →
    fault.problem? = none ∨ ∃ exchange ∈ exchanges, exchange.2 = .error fault

namespace Relays

theorem pure (a : α) : Relays (pure a : Interaction ρ ω α) :=
  fun _ _ plays => nomatch plays.2

theorem lift {outcome : Except Fault α} (nameless : Nameless outcome) :
    Relays (liftM outcome : Interaction ρ ω α) :=
  fun _ fault plays => .inl (nameless fault (plays_lift_iff.mp plays).2.symm)

theorem liftReported {reported : Log.Reported α} (nameless : Nameless reported.outcome) :
    Relays (liftM reported : Interaction ρ ω α) :=
  fun _ fault plays => .inl (nameless fault (plays_liftReported_iff.mp plays).2.symm)

theorem ask (r : ρ) : Relays (ask r : Interaction ρ ω ω) := by
  intro exchanges fault plays
  obtain rfl := plays_ask_iff.mp plays
  exact .inr ⟨(r, .error fault), List.mem_singleton_self _, rfl⟩

/-- A sequence relays what its parts relay. -/
theorem bind {next : α → Interaction ρ ω β} (first : Relays activity)
    (second : ∀ a, Relays (next a)) : Relays (activity >>= next) := by
  intro exchanges fault plays
  obtain ⟨fault', failed, same⟩ | ⟨a, early, late, _, failed, rfl⟩ := plays_bind_iff.mp plays
  · obtain rfl := Except.error.inj same
    exact first exchanges fault failed
  · obtain unnamed | ⟨exchange, member, replied⟩ := second a late fault failed
    · exact .inl unnamed
    · exact .inr ⟨exchange, List.mem_append_right _ member, replied⟩

end Relays

end Interaction

end ManifestOwnership
