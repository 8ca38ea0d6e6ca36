import ManifestOwnership.Proofs.Webhook.Filling

/-! # The bundles of a manifest

The bundles that stand in the client configurations of a manifest, and what becomes of them. An
injection that succeeds leaves the given bundle in all of them. One that fails may have come to
some of them only, and the others are as they were; there is no third thing that it leaves.
-/

namespace ManifestOwnership.Webhook

variable {encoded definition declared manifest changed webhook : Value} {service : Service}
  {bundle : CABundle}

def webhookBundle (webhook : Value) : Option Value :=
  (webhook.get? "clientConfig").bind (·.get? "caBundle")

def webhookBundles (definition : Value) : List (Option Value) :=
  match definition.get? "webhooks" with
  | some (.list webhooks) => webhooks.map webhookBundle
  | _ => []

/-- A manifest carries a bundle in all client configurations that the declared one has. -/
structure Carries (encoded declared manifest : Value) : Prop where
  webhooks : isConfiguration declared = .ok true →
    webhookBundles manifest = List.replicate (webhookBundles declared).length (some encoded)
  conversion : needsConversion declared = .ok true →
    manifest.at? Injection.authorityPath = .ok (some encoded)

/-- A bundle is put in the place of others, or they are kept. -/
structure Supersedes (encoded before after : Value) : Prop where
  webhooks : List.Forall₂ (fun old new => new = old ∨ new = some encoded)
    (webhookBundles before) (webhookBundles after)
  conversion : after.at? Injection.authorityPath = before.at? Injection.authorityPath ∨
    after.at? Injection.authorityPath = .ok (some encoded)

namespace Change

variable {α : Type} {step : α → Change α} {related : α → α → Prop}

/-- The changes of a list are those of its items, some of which may not have been reached. -/
theorem forall₂_each (refl : ∀ item, related item item)
    (changes : ∀ item, related item (step item).value) (items : List α) :
    List.Forall₂ related items (each step items).value := by
  induction items with
  | nil => exact .nil
  | cons item rest ih =>
    rw [each]
    split
    · exact .cons (changes item) ih
    · exact .cons (changes item) (List.forall₂_same.mpr fun item _ => refl item)

/-- What is left of two changes is what the second one leaves, or the first one if that fails. -/
theorem value_andThen (change : Change α) (next : α → Change α) :
    (change.andThen next).value = change.value ∨
      (change.andThen next).value = (next change.value).value := by
  rw [andThen]
  split
  · exact .inr rfl
  · exact .inl rfl

end Change

theorem webhookBundles_congr (same : manifest.get? "webhooks" = declared.get? "webhooks") :
    webhookBundles manifest = webhookBundles declared := by
  rw [webhookBundles, webhookBundles, same]

/-- What a manifest is declared to be depends on its type, its webhooks and its specification. -/
theorem Carries.congr {content content' : Fields}
    (carries : Carries encoded (.object content) manifest)
    (same : ∀ name, name ≠ "metadata" → Fields.get? content' name = Fields.get? content name) :
    Carries encoded (.object content') manifest := by
  have kind := same "kind" (by decide)
  have apiVersion := same "apiVersion" (by decide)
  refine ⟨fun configuration => ?_, fun converts => ?_⟩
  · have bundles : webhookBundles (.object content') = webhookBundles (.object content) :=
      webhookBundles_congr (same "webhooks" (by decide))
    rw [isConfiguration_eq kind apiVersion] at configuration
    rw [bundles]
    exact carries.webhooks configuration
  · rw [needsConversion_congr kind apiVersion (same "spec" (by decide))] at converts
    exact carries.conversion converts

/-- The bundles are no part of the metadata. -/
theorem Carries.of_agree {aside : List String} {body : Value}
    (carries : Carries encoded declared manifest)
    (agree : Manifest.Agree aside body manifest) : Carries encoded declared body := by
  obtain ⟨content, rfl, _⟩ := agree.left.eq_object
  obtain ⟨content', rfl, _⟩ := agree.right.eq_object
  refine ⟨fun configuration => ?_, fun converts => ?_⟩
  · rw [← carries.webhooks configuration]
    exact webhookBundles_congr (agree.content "webhooks" (by decide))
  · exact (Value.at?_congr (agree.content "spec" (by decide))).trans (carries.conversion converts)

/-- What stands in a client configuration that is filled is the bundle. -/
theorem webhookBundle_of_altered {webhook' : Value}
    (altered : Value.Altered (FilledAt service encoded) ["clientConfig"] (some webhook)
      (some webhook')) : webhookBundle webhook' = some encoded := by
  obtain ⟨fields, _, config, rfl, found, filled⟩ := exists_filled_of_altered altered
  rw [webhookBundle, Value.get?_object, found]
  exact filled.bundle

theorem webhookBundles_of_eachFilled
    (each : EachFilled service encoded (declared.get? "webhooks") (manifest.get? "webhooks")) :
    webhookBundles manifest =
      List.replicate (webhookBundles declared).length (some encoded) := by
  unfold webhookBundles
  generalize declared.get? "webhooks" = before, manifest.get? "webhooks" = after at each
  cases each with
  | none blank =>
    cases before with
    | none => rfl
    | some listed =>
      cases listed with
      | list webhooks =>
        obtain rfl : webhooks = [] := by simpa [Value.truthy] using blank
        rfl
      | _ => rfl
  | all each =>
    dsimp only
    rw [List.length_map]
    induction each with
    | nil => rfl
    | cons here _ ih =>
      rw [List.map_cons, List.length_cons, List.replicate_succ, webhookBundle_of_altered here]
      exact congrArg _ ih

theorem Supersedes.refl (encoded definition : Value) : Supersedes encoded definition definition :=
  ⟨List.forall₂_same.mpr fun _ _ => .inl rfl, .inl rfl⟩

namespace Injection

/-- After an injection that succeeds all client configurations hold the bundle. -/
theorem carries_of_run (success : (run bundle service definition).change.outcome = .ok changed) :
    Carries (CABundle.written bundle) definition changed := by
  obtain ⟨configuration, into⟩ | ⟨other, _, into⟩ | ⟨other, other', rfl⟩ :=
    run_eq_ok_iff.mp success
  · refine ⟨fun _ => ?_, fun converts => ?_⟩
    · exact webhookBundles_of_eachFilled (altered_of_intoConfiguration into).get?
    · simp [needsConversion_of_isConfiguration configuration] at converts
  · exact ⟨fun configuration => by simp [other] at configuration,
      fun _ => at?_of_intoConversion into⟩
  · exact ⟨fun configuration => by simp [other] at configuration,
      fun converts => by simp [other'] at converts⟩

theorem webhookBundle_object (fields : Fields) : webhookBundle (.object fields) =
    match Fields.get fields "clientConfig" with
    | .object config => Fields.get? config "caBundle"
    | _ => none := by
  rw [webhookBundle, Value.get?_object, Fields.get]
  cases Fields.get? fields "clientConfig" with
  | none => rfl
  | some config => cases config <;> rfl

private theorem webhookBundle_ensureConfig (webhook : Value) :
    webhookBundle (ensureConfig webhook).value = webhookBundle webhook := by
  cases webhook with
  | object fields =>
    simp only [ensureConfig]
    split_ifs with absent
    · have missing : Fields.get fields "clientConfig" = .null := by
        cases found : Fields.get fields "clientConfig" <;> simp_all [Value.isNull]
      simp only [Change.made, webhookBundle_object, missing, Fields.get_set_self]
      rfl
    · rfl
  | _ => rfl

private theorem webhookBundle_fillWebhook (encoded : Value) (service : Service) (webhook : Value) :
    webhookBundle (fillWebhook encoded service webhook).value = webhookBundle webhook ∨
      webhookBundle (fillWebhook encoded service webhook).value = some encoded := by
  cases webhook with
  | object fields =>
    simp only [fillWebhook, Change.inside, webhookBundle_object, Fields.get_set_self]
    cases Fields.get fields "clientConfig" with
    | object config =>
      obtain ⟨config', same, bundled⟩ := get?_fillConfig encoded service config
      exact .inr (by rw [same]; exact bundled)
    | _ => exact .inl rfl
  | _ => exact .inl rfl

private theorem forall₂_webhookBundle (encoded : Value) (service : Service)
    (webhooks : List Value) :
    List.Forall₂ (fun old new => new = old ∨ new = some encoded) (webhooks.map webhookBundle)
      (((Change.each ensureConfig webhooks).andThen
        (Change.each (fillWebhook encoded service))).value.map webhookBundle) := by
  -- All client configurations are made before a bundle is put into the first one.
  have ready : List.Forall₂ (fun before after => webhookBundle before = webhookBundle after)
      webhooks (Change.each ensureConfig webhooks).value := by
    refine Change.forall₂_each (fun _ => ?_) (fun webhook => ?_) webhooks
    · rfl
    · exact (webhookBundle_ensureConfig webhook).symm
  have same : webhooks.map webhookBundle =
      (Change.each ensureConfig webhooks).value.map webhookBundle := by
    rw [← List.forall₂_eq_eq_eq, List.forall₂_map_left_iff, List.forall₂_map_right_iff]
    exact ready
  rw [same]
  obtain left | left := Change.value_andThen (Change.each ensureConfig webhooks)
    (Change.each (fillWebhook encoded service))
  · rw [left]
    exact List.forall₂_same.mpr fun _ _ => .inl rfl
  · rw [left, List.forall₂_map_left_iff, List.forall₂_map_right_iff]
    exact Change.forall₂_each (fun _ => .inl rfl) (webhookBundle_fillWebhook encoded service) _

private theorem value_intoConfiguration_of_unlisted (encoded : Value) (service : Service)
    (unlisted : ∀ fields webhooks, definition = .object fields → webhooks ≠ [] →
      Fields.get? fields "webhooks" ≠ some (.list webhooks)) :
    (intoConfiguration encoded service definition).1.value = definition := by
  unfold intoConfiguration
  cases definition with
  | object fields =>
    dsimp only
    split
    · next webhooks listed =>
      split_ifs with empty
      · rfl
      · obtain ⟨given, listed⟩ | ⟨_, none⟩ := Value.orElse_eq_iff.mp listed
        · have found := Fields.get?_of_truthy given
          rw [listed] at found
          exact absurd found (unlisted fields webhooks rfl (by simpa using empty))
        · obtain rfl := Value.list.inj none
          simp at empty
    all_goals rfl
  | _ => rfl

private theorem supersedes_of_intoConfiguration (encoded : Value) (service : Service)
    (definition : Value) :
    Supersedes encoded definition (intoConfiguration encoded service definition).1.value := by
  by_cases listed : ∃ fields webhooks, definition = .object fields ∧ webhooks ≠ [] ∧
      Fields.get? fields "webhooks" = some (.list webhooks)
  · obtain ⟨fields, webhooks, rfl, given, listed⟩ := listed
    have named : Fields.get fields "webhooks" = .list webhooks := by simp [Fields.get, listed]
    rw [intoConfiguration_of_list given named]
    refine ⟨?_, .inl (Value.at?_congr (Fields.get?_set_of_ne _ _ (by decide)))⟩
    simp only [webhookBundles, Value.get?_object, listed, Change.inside, Fields.get?_set_self]
    exact forall₂_webhookBundle encoded service webhooks
  · rw [value_intoConfiguration_of_unlisted encoded service fun fields webhooks same given found =>
      listed ⟨fields, webhooks, same, given, found⟩]
    exact .refl encoded definition

private theorem at?_authorityPath_intoConversion (encoded : Value) (service : Service)
    (definition : Value) :
    (intoConversion encoded service definition).value.at? authorityPath =
        definition.at? authorityPath ∨
      (intoConversion encoded service definition).value.at? authorityPath =
        .ok (some encoded) := by
  unfold intoConversion
  split
  · exact .inl rfl
  · next config read =>
    simp only
    split
    · exact .inl rfl
    · next changed written =>
      obtain ⟨found, place, rfl⟩ := map_eq_ok_iff.mp read
      by_cases given : ∃ config, (if (found.getD .null).isNull then Value.object []
          else found.getD .null) = .object config
      · obtain ⟨config, given⟩ := given
        obtain ⟨config', same, bundled⟩ := get?_fillConfig encoded service config
        rw [given, same] at written
        right
        rw [← bundled]
        exact Value.at?_child_of_setAt written
      · -- Neither absent nor null nor an object, the configuration is written back.
        rcases found with _ | config
        · exact absurd ⟨[], rfl⟩ given
        · cases config with
          | null => exact absurd ⟨[], rfl⟩ given
          | object config => exact absurd ⟨config, rfl⟩ given
          | _ =>
            obtain rfl := Except.ok.inj ((Value.setAt_of_at? place).symm.trans written)
            exact .inl rfl

private theorem supersedes_of_intoConversion (encoded : Value) (service : Service)
    (definition : Value) :
    Supersedes encoded definition (intoConversion encoded service definition).value := by
  refine ⟨?_, at?_authorityPath_intoConversion encoded service definition⟩
  rw [webhookBundles_congr (get?_intoConversion encoded service definition (by decide))]
  exact List.forall₂_same.mpr fun _ _ => .inl rfl

/-- Even an injection that fails leaves nothing but the bundle and what was there. -/
theorem supersedes_of_run (bundle : CABundle) (service : Service) (definition : Value) :
    Supersedes (CABundle.written bundle) definition
      (run bundle service definition).change.value := by
  unfold run
  split
  · exact .refl _ _
  · exact supersedes_of_intoConfiguration _ service definition
  · split
    · exact .refl _ _
    · exact supersedes_of_intoConversion _ service definition
    · exact .refl _ _

end Injection

end ManifestOwnership.Webhook
