import ManifestOwnership.Proofs.Webhook.Filling

/-! # The last injection wins

A certificate is renewed, or a new revision brings its own service, and the bundle is injected into
a manifest that holds an earlier one. If the service has a name and a port, the result is that of
injecting into the manifest as it was before: the fields, in their order, and the number of client
configurations. An injection does not change what the manifest counts as either, so the next one
goes the same way.
-/

namespace ManifestOwnership.Webhook

variable {encoded' definition changed config filled ready : Value} {first second : Service}
  {bundle bundle' : CABundle} {service : Service} {fields : Fields}

theorem Service.named_named (first second : Service) (said : Fields) :
    second.named (first.named said) = second.named said := by
  have present : (Fields.get? (Fields.set said "name" first.name) "name").isSome := by simp
  unfold named
  rw [Fields.set_comm present (by decide), Fields.set_set, Fields.set_set]

/-- A name and a namespace that are there are replaced in place, before a port that is set. -/
theorem Service.named_set (service : Service) (port : Value)
    (name : (Fields.get? fields "name").isSome) (scope : (Fields.get? fields "namespace").isSome) :
    service.named (Fields.set fields "port" port) =
      Fields.set (service.named fields) "port" port := by
  have scope' : (Fields.get? (Fields.set fields "name" service.name) "namespace").isSome := by
    rwa [Fields.get?_set_of_ne _ _ (by decide)]
  unfold named
  rw [Fields.set_comm name (by decide), Fields.set_comm scope' (by decide)]

/-- Nothing is left of a service in a client configuration that is pointed at another one. -/
theorem Service.target_target (given : second.port.isNull = false) (said : Fields) :
    second.target (first.target said) = second.target said := by
  simp only [target, given, Bool.false_eq_true, if_false]
  split_ifs
  · rw [named_named]
  · rw [named_set second first.port (by simp) (by simp), Fields.set_set, named_named]

namespace Injection

section

variable (encoded : Value) (first : Service) (named : second.name.truthy = true)
  (given : second.port.isNull = false)

include named given

/-- A client configuration that can be filled for one service can be filled for another one first,
which makes no difference. -/
theorem exists_fillConfig_between
    (success : (fillConfig encoded' second config).outcome = .ok filled) :
    ∃ between, (fillConfig encoded first config).outcome = .ok (.object between) ∧
      (fillConfig encoded' second (.object between)).outcome = .ok filled := by
  obtain ⟨fields, rfl, full⟩ := fillConfig_eq_ok_iff.mp success
  simp only [named, true_and] at full
  have bundled (name : String) (other : name ≠ "caBundle") :
      Fields.get (Fields.set fields "caBundle" encoded) name = Fields.get fields name :=
    Fields.get_set_of_ne _ _ other
  by_cases aims : first.name.truthy = true ∧ (Fields.get fields "url").truthy = false
  · rw [if_pos aims.2] at full
    obtain ⟨said, found, rfl⟩ := full
    have present : (Fields.get? (Fields.set fields "caBundle" encoded) "caBundle").isSome := by
      simp
    refine ⟨Fields.set (Fields.set fields "caBundle" encoded) "service"
      (.object (first.target said)), ?_, ?_⟩
    · refine fillConfig_eq_ok_iff.mpr ⟨fields, rfl, ?_⟩
      rw [if_pos aims]
      exact ⟨said, found, rfl⟩
    · refine fillConfig_eq_ok_iff.mpr ⟨_, rfl, ?_⟩
      rw [Fields.get_set_of_ne _ _ (by decide), bundled "url" (by decide),
        if_pos ⟨named, aims.2⟩, Fields.get_set_self]
      refine ⟨_, Value.orElse_object _, ?_⟩
      rw [Service.target_target given, Fields.set_comm present (by decide), Fields.set_set,
        Fields.set_set]
  · refine ⟨Fields.set fields "caBundle" encoded, ?_, ?_⟩
    · refine fillConfig_eq_ok_iff.mpr ⟨fields, rfl, ?_⟩
      rw [if_neg aims]
    · refine fillConfig_eq_ok_iff.mpr ⟨_, rfl, ?_⟩
      rw [bundled "url" (by decide), bundled "service" (by decide), Fields.set_set]
      simpa only [named, true_and] using full

/-- The same is true of a webhook, which has its client configuration from then on. -/
theorem exists_fillWebhook_between
    (success : (fillWebhook encoded' second ready).outcome = .ok filled) :
    ∃ between, (fillWebhook encoded first ready).outcome = .ok between ∧
      (ensureConfig between).outcome = .ok between ∧
      (fillWebhook encoded' second between).outcome = .ok filled := by
  obtain ⟨fields, config, rfl, full, rfl⟩ := fillWebhook_eq_ok_iff.mp success
  obtain ⟨between, before, after⟩ := exists_fillConfig_between encoded first named given full
  refine ⟨.object (Fields.set fields "clientConfig" (.object between)), ?_, ?_, ?_⟩
  · exact fillWebhook_eq_ok_iff.mpr ⟨fields, _, rfl, before, rfl⟩
  · refine ensureConfig_eq_ok_iff.mpr ⟨_, rfl, ?_⟩
    rw [Fields.get_set_self]
    rfl
  · refine fillWebhook_eq_ok_iff.mpr ⟨_, config, rfl, ?_, ?_⟩
    · rw [Fields.get_set_self]
      exact after
    · rw [Fields.set_set]

private theorem exists_forall₂_between {all all' : List Value}
    (full : List.Forall₂ (fun ready filled => (fillWebhook encoded' second ready).outcome =
      .ok filled) all all') :
    ∃ between, List.Forall₂ (fun ready filled => (fillWebhook encoded first ready).outcome =
        .ok filled) all between ∧
      List.Forall₂ (fun webhook ready => (ensureConfig webhook).outcome = .ok ready)
        between between ∧
      List.Forall₂ (fun ready filled => (fillWebhook encoded' second ready).outcome = .ok filled)
        between all' := by
  induction full with
  | nil => exact ⟨[], .nil, .nil, .nil⟩
  | cons here _ ih =>
    obtain ⟨between, before, ready, after⟩ :=
      exists_fillWebhook_between encoded first named given here
    obtain ⟨others, before', ready', after'⟩ := ih
    exact ⟨between :: others, .cons before before', .cons ready ready', .cons after after'⟩

/-- All webhooks of a configuration can be filled for another service first. -/
theorem exists_intoConfiguration_between
    (success : (intoConfiguration encoded' second definition).1.outcome = .ok changed) :
    ∃ between, (intoConfiguration encoded first definition).1.outcome = .ok between ∧
      intoConfiguration encoded' second between =
        intoConfiguration encoded' second definition := by
  obtain ⟨fields, rfl, ⟨blank, rfl⟩ | made⟩ := intoConfiguration_eq_ok_iff.mp success
  · exact ⟨_, intoConfiguration_eq_ok_iff.mpr ⟨fields, rfl, .inl ⟨blank, rfl⟩⟩, rfl⟩
  · obtain ⟨webhooks, ready, filled, nonempty, listed, ensured, full, rfl⟩ := made
    obtain ⟨all, before, ready', after⟩ := exists_forall₂_between encoded first named given full
    have length : all.length = webhooks.length :=
      before.length_eq.symm.trans ensured.length_eq.symm
    have nonempty' : all ≠ [] := by
      rintro rfl
      exact nonempty (List.length_eq_zero_iff.mp length.symm)
    have listed' : Fields.get (Fields.set fields "webhooks" (.list all)) "webhooks" = .list all :=
      Fields.get_set_self _ _ _
    have same : (intoConfiguration encoded' second
        (.object (Fields.set fields "webhooks" (.list all)))).1.outcome =
          .ok (.object (Fields.set fields "webhooks" (.list filled))) := by
      refine intoConfiguration_eq_ok_iff.mpr
        ⟨_, rfl, .inr ⟨all, all, filled, nonempty', listed', ready', after, ?_⟩⟩
      rw [Fields.set_set]
    refine ⟨_, intoConfiguration_eq_ok_iff.mpr ⟨fields, rfl, .inr ⟨webhooks, ready, all, nonempty,
      listed, ensured, before, rfl⟩⟩, Prod.ext (Change.eq_of_outcome same success) ?_⟩
    rw [intoConfiguration_of_list nonempty listed, intoConfiguration_of_list nonempty' listed']
    exact length

/-- The client configuration of a definition can be filled for another service first. -/
theorem exists_intoConversion_between
    (success : (intoConversion encoded' second definition).outcome = .ok changed) :
    ∃ between, (intoConversion encoded first definition).outcome = .ok between ∧
      intoConversion encoded' second between = intoConversion encoded' second definition := by
  have success' := success
  simp only [outcome_intoConversion, bind_eq_ok_iff, map_eq_ok_iff] at success'
  obtain ⟨config, read, changed, written, filled, full, rfl⟩ := success'
  obtain ⟨inner, before, after⟩ := exists_fillConfig_between encoded first named given full
  obtain ⟨found, place, _⟩ := map_eq_ok_iff.mp read
  obtain ⟨between, written'⟩ := Value.exists_setAt (.object inner) place
  have read' : between.atOr conversionPath .null = .ok (.object inner) := by
    rw [Value.atOr, Value.at?_setAt written']
    rfl
  refine ⟨between, ?_, Change.eq_of_outcome ?_ success⟩
  · simp only [outcome_intoConversion, read, ok_bind, before,
      (Change.outcome_eq_ok_iff.mp before).2, written']
    rfl
  · rw [(Change.outcome_eq_ok_iff.mp full).2] at written
    have last : between.setAt conversionPath filled = .ok changed := by
      rw [Value.setAt_setAt written', written]
    simp only [outcome_intoConversion, read', ok_bind, Value.isNull, Bool.false_eq_true, if_false,
      after, (Change.outcome_eq_ok_iff.mp after).2, last]
    rfl

end

/-- An injection leaves what a manifest counts as. -/
theorem kind_of_run (success : (run bundle service definition).change.outcome = .ok changed) :
    isConfiguration changed = isConfiguration definition ∧
      needsConversion changed = needsConversion definition := by
  have frame {name : String} (webhooks : name ≠ "webhooks") (spec : name ≠ "spec") :
      changed.get? name = definition.get? name := by
    rw [← (Change.outcome_eq_ok_iff.mp success).2]
    exact get?_run bundle service definition webhooks spec
  have kind : changed.get? "kind" = definition.get? "kind" := frame (by decide) (by decide)
  have apiVersion : changed.get? "apiVersion" = definition.get? "apiVersion" :=
    frame (by decide) (by decide)
  obtain ⟨configuration, into⟩ | ⟨_, _, into⟩ | ⟨_, _, rfl⟩ := run_eq_ok_iff.mp success
  · have same : isConfiguration changed = isConfiguration definition := by
      obtain ⟨fields, rfl, ⟨_, rfl⟩ | ⟨_, _, _, _, _, _, _, rfl⟩⟩ :=
        intoConfiguration_eq_ok_iff.mp into
      · rfl
      · exact isConfiguration_eq kind apiVersion
    refine ⟨same, ?_⟩
    rw [needsConversion_of_isConfiguration configuration,
      needsConversion_of_isConfiguration (same.trans configuration)]
  · simp only [outcome_intoConversion, bind_eq_ok_iff, map_eq_ok_iff] at into
    obtain ⟨_, _, changed, written, _, _, rfl⟩ := into
    have strategy : changed.at? strategyPath = definition.at? strategyPath :=
      Value.at?_setAt_of_apart written (by decide) (by decide)
    obtain ⟨_, _, rfl, _, rfl⟩ := Value.setAt_eq_ok_iff.mp written
    exact ⟨isConfiguration_eq kind apiVersion, needsConversion_eq kind apiVersion strategy⟩
  · exact ⟨rfl, rfl⟩

/-- An injection that succeeds for a service with a name and a port does so after another one, for
whatever service, and comes to the same. Both leave what the manifest counts as. -/
theorem last_injection_wins (bundle : CABundle) (first : Service)
    (named : second.name.truthy = true) (given : second.port.isNull = false)
    (success : (run bundle' second definition).change.outcome = .ok changed) :
    ∃ between, (run bundle first definition).change.outcome = .ok between ∧
      run bundle' second between = run bundle' second definition ∧
      (isConfiguration between = isConfiguration definition ∧
        needsConversion between = needsConversion definition) ∧
      (isConfiguration changed = isConfiguration definition ∧
        needsConversion changed = needsConversion definition) := by
  suffices ∃ between, (run bundle first definition).change.outcome = .ok between ∧
      (isConfiguration between = isConfiguration definition →
        needsConversion between = needsConversion definition →
          run bundle' second between = run bundle' second definition) by
    obtain ⟨between, before, same⟩ := this
    have kind := kind_of_run before
    exact ⟨between, before, same kind.1 kind.2, kind, kind_of_run success⟩
  obtain ⟨configuration, into⟩ | ⟨other, converts, into⟩ | ⟨other, other', rfl⟩ :=
    run_eq_ok_iff.mp success
  · obtain ⟨between, before, again⟩ :=
      exists_intoConfiguration_between (CABundle.written bundle) first named given into
    refine ⟨between, run_eq_ok_iff.mpr (.inl ⟨configuration, before⟩), fun kind _ => ?_⟩
    rw [CABundle.written] at again
    simp only [run, kind, configuration, again]
  · obtain ⟨between, before, again⟩ :=
      exists_intoConversion_between (CABundle.written bundle) first named given into
    refine ⟨between, run_eq_ok_iff.mpr (.inr (.inl ⟨other, converts, before⟩)),
      fun kind kind' => ?_⟩
    rw [CABundle.written] at again
    simp only [run, kind, kind', other, converts, again]
  · exact ⟨definition, run_eq_ok_iff.mpr (.inr (.inr ⟨other, other', rfl⟩)), fun _ _ => rfl⟩

/-- A service without a port gives way to one with a port, under a new bundle; the result for the
three webhooks is that of injecting once. -/
theorem last_injection_wins_assorted : ∃ between changed,
    (run [97] (serving "q" .null) assorted).change.outcome = .ok between ∧
    (run [98] (serving "r" (.int 9443)) assorted).change.outcome = .ok changed ∧
    (run [98] (serving "r" (.int 9443)) between).change.outcome = .ok changed := by
  obtain ⟨changed, success⟩ : ∃ changed,
      (run [98] (serving "r" (.int 9443)) assorted).change.outcome = .ok changed := ⟨_, rfl⟩
  obtain ⟨between, before, again, _⟩ :=
    last_injection_wins [97] (serving "q" .null) rfl rfl success
  exact ⟨between, changed, before, success, again ▸ success⟩

end Injection

end ManifestOwnership.Webhook
