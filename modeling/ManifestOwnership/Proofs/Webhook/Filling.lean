import ManifestOwnership.Proofs.Webhook.Injection

/-! # Every client configuration and nothing else

What injection changes in a manifest, field by field. `Filled` says it of one client configuration:
it gets the bundle and, unless it has an address, is pointed at the service, and all else that it
says stays. Injection does this to the client configuration of each webhook, or to the one of a
definition that a webhook converts, and `Value.Altered` says that it reaches nothing beside them.
Levels on the way that are absent or null are made objects.
-/

namespace ManifestOwnership.Webhook

/-- What pointing at a service makes of what a client configuration says about one. -/
structure Aimed (service : Service) (before after : Fields) : Prop where
  name : Fields.get? after "name" = some service.name
  scope : Fields.get? after "namespace" = some service.scope
  port : Fields.get? after "port" =
    if service.port.isNull then Fields.get? before "port" else some service.port
  others : ∀ field, field ≠ "name" → field ≠ "namespace" → field ≠ "port" →
    Fields.get? after field = Fields.get? before field

/-- What filling makes of a client configuration. -/
structure Filled (service : Service) (encoded : Value) (before after : Fields) : Prop where
  bundle : Fields.get? after "caBundle" = some encoded
  aimed : service.name.truthy = true → (Fields.get before "url").truthy = false →
    ∃ said target, (Fields.get before "service").orElse (.object []) = .object said ∧
      Fields.get? after "service" = some (.object target) ∧ Aimed service said target
  kept : service.name.truthy = false ∨ (Fields.get before "url").truthy = true →
    Fields.get? after "service" = Fields.get? before "service"
  others : ∀ field, field ≠ "caBundle" → field ≠ "service" →
    Fields.get? after field = Fields.get? before field

/-- A client configuration that is absent, null or an object is filled. -/
def FilledAt (service : Service) (encoded : Value) (before after : Option Value) : Prop :=
  ∃ fields fields', Fields.level? before = some fields ∧ after = some (.object fields') ∧
    Filled service encoded fields fields'

/-- The client configuration of each webhook of a list is filled; what does not count as given
lists no webhooks. -/
inductive EachFilled (service : Service) (encoded : Value) : Option Value → Option Value → Prop
  | none {listed : Option Value} (blank : (listed.getD .null).truthy = false) :
      EachFilled service encoded listed listed
  | all {webhooks webhooks' : List Value}
      (each : List.Forall₂ (fun webhook webhook' =>
        Value.Altered (FilledAt service encoded) ["clientConfig"] (some webhook) (some webhook'))
        webhooks webhooks') :
      EachFilled service encoded (some (.list webhooks)) (some (.list webhooks'))

/-- What a client configuration says about a service once the name and where it is are set. -/
def Service.named (service : Service) (said : Fields) : Fields :=
  Fields.set (Fields.set said "name" service.name) "namespace" service.scope

/-- What a client configuration says about a service once it is pointed at one. -/
def Service.target (service : Service) (said : Fields) : Fields :=
  if service.port.isNull then service.named said
  else Fields.set (service.named said) "port" service.port

@[simp] theorem Service.get?_named_name (service : Service) (said : Fields) :
    Fields.get? (service.named said) "name" = some service.name := by
  rw [named, Fields.get?_set_of_ne _ _ (by decide), Fields.get?_set_self]

@[simp] theorem Service.get?_named_namespace (service : Service) (said : Fields) :
    Fields.get? (service.named said) "namespace" = some service.scope :=
  Fields.get?_set_self _ _ _

theorem Service.get?_named_of_ne (service : Service) (said : Fields) {field : String}
    (name : field ≠ "name") (scope : field ≠ "namespace") :
    Fields.get? (service.named said) field = Fields.get? said field := by
  rw [named, Fields.get?_set_of_ne _ _ scope, Fields.get?_set_of_ne _ _ name]

theorem Service.aimed_target (service : Service) (said : Fields) :
    Aimed service said (service.target said) := by
  unfold Service.target
  cases port : service.port.isNull with
  | true =>
    rw [if_pos rfl]
    refine ⟨service.get?_named_name said, service.get?_named_namespace said, ?_, ?_⟩
    · rw [if_pos port, service.get?_named_of_ne said (by decide) (by decide)]
    · exact fun field name scope _ => service.get?_named_of_ne said name scope
  | false =>
    rw [if_neg Bool.false_ne_true]
    refine ⟨?_, ?_, ?_, ?_⟩
    · rw [Fields.get?_set_of_ne _ _ (by decide), service.get?_named_name]
    · rw [Fields.get?_set_of_ne _ _ (by decide), service.get?_named_namespace]
    · rw [if_neg (by simp [port]), Fields.get?_set_self]
    · intro field name scope port
      rw [Fields.get?_set_of_ne _ _ port, service.get?_named_of_ne said name scope]

/-- A webhook whose client configuration is filled has one. -/
theorem exists_filled_of_altered {service : Service} {encoded webhook webhook' : Value}
    (altered : Value.Altered (FilledAt service encoded) ["clientConfig"] (some webhook)
      (some webhook')) : ∃ fields config config', webhook' = .object fields ∧
        Fields.get? fields "clientConfig" = some (.object config') ∧
          Filled service encoded config config' := by
  obtain ⟨_, fields, _, same, _, config, config', _, found, filled⟩ := altered
  exact ⟨fields, config, config', Option.some.inj same, found, filled⟩

namespace Injection

variable {encoded definition changed config filled webhook ready : Value} {service : Service}
  {bundle : CABundle} {fields pointed : Fields}

theorem pointAt_eq_ok_iff : (pointAt service fields).outcome = .ok pointed ↔
    ∃ said, (Fields.get fields "service").orElse (.object []) = .object said ∧
      Fields.set fields "service" (.object (service.target said)) = pointed := by
  unfold pointAt
  split
  · next said found => simp [found, Service.target, Service.named]
  · next other => simp_all

/-- A client configuration is filled with the bundle first, and then perhaps with the service. -/
theorem fillConfig_eq_ok_iff : (fillConfig encoded service config).outcome = .ok filled ↔
    ∃ fields, config = .object fields ∧
      if service.name.truthy = true ∧ (Fields.get fields "url").truthy = false then
        ∃ said, (Fields.get fields "service").orElse (.object []) = .object said ∧
          .object (Fields.set (Fields.set fields "caBundle" encoded) "service"
            (.object (service.target said))) = filled
      else .object (Fields.set fields "caBundle" encoded) = filled := by
  cases config with
  | object fields =>
    have url : Fields.get (Fields.set fields "caBundle" encoded) "url" = Fields.get fields "url" :=
      Fields.get_set_of_ne _ _ (by decide)
    have said : Fields.get (Fields.set fields "caBundle" encoded) "service" =
      Fields.get fields "service" := Fields.get_set_of_ne _ _ (by decide)
    simp only [fillConfig, url, Value.object.injEq, exists_eq_left', Bool.and_eq_true,
      Bool.not_eq_true']
    split_ifs with aims
    · simp only [Change.outcome_inside, map_eq_ok_iff, pointAt_eq_ok_iff, said]
      constructor
      · rintro ⟨_, ⟨said, found, rfl⟩, rfl⟩
        exact ⟨said, found, rfl⟩
      · rintro ⟨said, found, rfl⟩
        exact ⟨_, ⟨said, found, rfl⟩, rfl⟩
    · simp
  | _ => simp [fillConfig]

/-- A client configuration that is filled keeps all that filling does not set. -/
theorem filled_of_fillConfig
    (success : (fillConfig encoded service (.object fields)).outcome = .ok filled) :
    ∃ fields', filled = .object fields' ∧ Filled service encoded fields fields' := by
  obtain ⟨_, same, success⟩ := fillConfig_eq_ok_iff.mp success
  obtain rfl := Value.object.inj same
  split_ifs at success with aims
  · obtain ⟨said, found, rfl⟩ := success
    refine ⟨_, rfl, ?_, fun _ _ => ?_, fun unaimed => ?_, fun field bundle target => ?_⟩
    · rw [Fields.get?_set_of_ne _ _ (by decide), Fields.get?_set_self]
    · exact ⟨said, _, found, Fields.get?_set_self _ _ _, service.aimed_target said⟩
    · simp [aims] at unaimed
    · rw [Fields.get?_set_of_ne _ _ target, Fields.get?_set_of_ne _ _ bundle]
  · obtain rfl := success
    refine ⟨_, rfl, Fields.get?_set_self _ _ _, fun named unaddressed => ?_, fun _ => ?_,
      fun field bundle _ => ?_⟩
    · exact absurd ⟨named, unaddressed⟩ aims
    · exact Fields.get?_set_of_ne _ _ (by decide)
    · exact Fields.get?_set_of_ne _ _ bundle

/-- What stands for a client configuration that is absent or null is filled in its place. -/
theorem filledAt_of_fillConfig {before : Option Value}
    (success : (fillConfig encoded service
      (if (before.getD .null).isNull then .object [] else before.getD .null)).outcome =
        .ok filled) : FilledAt service encoded before (some filled) := by
  obtain ⟨fields, same, _⟩ := fillConfig_eq_ok_iff.mp success
  rw [same] at success
  obtain ⟨fields', rfl, made⟩ := filled_of_fillConfig success
  refine ⟨fields, fields', ?_, rfl, made⟩
  obtain _ | value := before
  · obtain rfl := Value.object.inj same
    rfl
  · cases value <;> simp_all [Value.isNull, Fields.level?]

theorem ensureConfig_eq_ok_iff : (ensureConfig webhook).outcome = .ok ready ↔
    ∃ fields, webhook = .object fields ∧
      (if (Fields.get fields "clientConfig").isNull
        then .object (Fields.set fields "clientConfig" (.object [])) else .object fields) =
          ready := by
  cases webhook with
  | object fields =>
    simp only [ensureConfig, Value.object.injEq, exists_eq_left']
    split_ifs <;> simp
  | _ => simp [ensureConfig]

theorem fillWebhook_eq_ok_iff : (fillWebhook encoded service webhook).outcome = .ok filled ↔
    ∃ fields config, webhook = .object fields ∧
      (fillConfig encoded service (Fields.get fields "clientConfig")).outcome = .ok config ∧
        .object (Fields.set fields "clientConfig" config) = filled := by
  cases webhook <;> simp [fillWebhook]

/-- A webhook gets a client configuration if it has none, and that is filled. -/
theorem altered_of_fillWebhook (ensured : (ensureConfig webhook).outcome = .ok ready)
    (success : (fillWebhook encoded service ready).outcome = .ok filled) :
    Value.Altered (FilledAt service encoded) ["clientConfig"] (some webhook) (some filled) := by
  obtain ⟨fields, rfl, rfl⟩ := ensureConfig_eq_ok_iff.mp ensured
  obtain ⟨fields', config, same, full, rfl⟩ := fillWebhook_eq_ok_iff.mp success
  -- Whether the configuration is made or was there, it is filled and set in the webhook.
  have chosen : Fields.get fields' "clientConfig" =
      (if (Fields.get fields "clientConfig").isNull then .object []
        else Fields.get fields "clientConfig") ∧
      ∀ config, Fields.set fields' "clientConfig" config =
        Fields.set fields "clientConfig" config := by
    split_ifs at same ⊢ <;> obtain rfl := Value.object.inj same <;> simp
  rw [chosen.1] at full
  rw [chosen.2]
  refine ⟨fields, _, rfl, rfl, fun name other => Fields.get?_set_of_ne _ _ other, ?_⟩
  rw [Fields.get?_set_self]
  exact filledAt_of_fillConfig full

theorem intoConfiguration_of_list {webhooks : List Value} (nonempty : webhooks ≠ [])
    (listed : Fields.get fields "webhooks" = .list webhooks) :
    intoConfiguration encoded service (.object fields) =
      (((Change.each ensureConfig webhooks).andThen
        (Change.each (fillWebhook encoded service))).inside fun changed =>
          .object (Fields.set fields "webhooks" (.list changed)), webhooks.length) := by
  simp [intoConfiguration, listed, Value.orElse, Value.truthy, nonempty]

/-- All webhooks are given a client configuration before the first one is filled. -/
theorem intoConfiguration_eq_ok_iff :
    (intoConfiguration encoded service definition).1.outcome = .ok changed ↔
      ∃ fields, definition = .object fields ∧
        (((Fields.get fields "webhooks").truthy = false ∧ .object fields = changed) ∨
        ∃ webhooks ready filled, webhooks ≠ [] ∧ Fields.get fields "webhooks" = .list webhooks ∧
          List.Forall₂ (fun webhook ready => (ensureConfig webhook).outcome = .ok ready)
            webhooks ready ∧
          List.Forall₂ (fun ready filled => (fillWebhook encoded service ready).outcome =
            .ok filled) ready filled ∧
          .object (Fields.set fields "webhooks" (.list filled)) = changed) := by
  cases definition with
  | object fields =>
    simp only [Value.object.injEq, exists_eq_left']
    cases given : (Fields.get fields "webhooks").truthy with
    | false =>
      have missing : (Fields.get fields "webhooks").orElse (.list []) = .list [] := by
        simp [Value.orElse, given]
      have unlisted : ∀ webhooks, webhooks ≠ [] →
          Fields.get fields "webhooks" ≠ .list webhooks := by
        intro webhooks nonempty listed
        simp [listed, Value.truthy, nonempty] at given
      simp +contextual [intoConfiguration, missing, unlisted]
    | true =>
      cases listed : Fields.get fields "webhooks" with
      | list webhooks =>
        have nonempty : webhooks ≠ [] := by simpa [listed, Value.truthy] using given
        simp only [intoConfiguration_of_list nonempty listed, Change.outcome_inside,
          Change.outcome_andThen, Change.outcome_each, map_eq_ok_iff, bind_eq_ok_iff,
          mapM_eq_ok_iff, reduceCtorEq, false_and, false_or]
        constructor
        · rintro ⟨filled, ⟨ready, ensured, full⟩, rfl⟩
          exact ⟨webhooks, ready, filled, nonempty, rfl, ensured, full, rfl⟩
        · rintro ⟨_, ready, filled, _, same, ensured, full, rfl⟩
          obtain rfl := Value.list.inj same
          exact ⟨filled, ⟨ready, ensured, full⟩, rfl⟩
      | _ =>
        rw [listed] at given
        simp [intoConfiguration, listed, Value.orElse, given]
  | _ => simp [intoConfiguration]

/-- An injection that succeeds is one into a webhook configuration, one into a definition that a
webhook converts, or none. -/
theorem run_eq_ok_iff : (run bundle service definition).change.outcome = .ok changed ↔
    (isConfiguration definition = .ok true ∧
      (intoConfiguration (CABundle.written bundle) service definition).1.outcome = .ok changed) ∨
    (isConfiguration definition = .ok false ∧ needsConversion definition = .ok true ∧
      (intoConversion (CABundle.written bundle) service definition).outcome = .ok changed) ∨
    (isConfiguration definition = .ok false ∧ needsConversion definition = .ok false ∧
      definition = changed) := by
  unfold run
  cases isConfiguration definition with
  | error _ => simp
  | ok configuration =>
    cases configuration with
    | true => simp [CABundle.written]
    | false => cases needsConversion definition with
      | error _ => simp
      | ok converts => cases converts <;> simp [CABundle.written]

private theorem forall₂_altered {webhooks all all' : List Value}
    (ensured : List.Forall₂ (fun webhook ready => (ensureConfig webhook).outcome = .ok ready)
      webhooks all)
    (full : List.Forall₂ (fun ready filled => (fillWebhook encoded service ready).outcome =
      .ok filled) all all') :
    List.Forall₂ (fun webhook webhook' => Value.Altered (FilledAt service encoded)
      ["clientConfig"] (some webhook) (some webhook')) webhooks all' := by
  induction ensured generalizing all' with
  | nil =>
    cases full
    exact .nil
  | cons here _ ih =>
    cases full with
    | cons here' there' => exact .cons (altered_of_fillWebhook here here') (ih there')

theorem altered_of_intoConfiguration
    (success : (intoConfiguration encoded service definition).1.outcome = .ok changed) :
    Value.Altered (EachFilled service encoded) ["webhooks"] (some definition) (some changed) := by
  obtain ⟨fields, rfl, ⟨blank, rfl⟩ | ⟨webhooks, ready, filled, _, listed, ensured, full, rfl⟩⟩ :=
    intoConfiguration_eq_ok_iff.mp success
  · exact ⟨fields, fields, rfl, rfl, fun _ _ => rfl, .none blank⟩
  · have found : Fields.get? fields "webhooks" = some (.list webhooks) := by
      cases found : Fields.get? fields "webhooks" <;> simp_all [Fields.get]
    refine ⟨fields, _, rfl, rfl, fun name other => Fields.get?_set_of_ne _ _ other, ?_⟩
    rw [found, Fields.get?_set_self]
    exact .all (forall₂_altered ensured full)

theorem altered_of_intoConversion
    (success : (intoConversion encoded service definition).outcome = .ok changed) :
    Value.Altered (FilledAt service encoded) conversionPath.parts (some definition)
      (some changed) := by
  simp only [outcome_intoConversion, bind_eq_ok_iff, map_eq_ok_iff] at success
  obtain ⟨config, read, changed, written, filled, full, rfl⟩ := success
  obtain ⟨found, place, rfl⟩ := map_eq_ok_iff.mp read
  rw [(Change.outcome_eq_ok_iff.mp full).2] at written
  exact Value.altered_of_setAt place written (filledAt_of_fillConfig full)

/-- A client configuration leads to a service: it trusts the bundle, and unless it has an address it
names the service, where that is and, if it is given, the port. -/
def LeadsTo (service : Service) (encoded config : Value) : Prop :=
  ∃ fields, config = .object fields ∧ Fields.get? fields "caBundle" = some encoded ∧
    (service.name.truthy = true → (Fields.get fields "url").truthy = false →
      ∃ target, Fields.get? fields "service" = some (.object target) ∧
        Fields.get? target "name" = some service.name ∧
        Fields.get? target "namespace" = some service.scope ∧
        (service.port.isNull = false → Fields.get? target "port" = some service.port))

/-- A client configuration that is filled leads to the service. -/
theorem leadsTo_of_filled {before after : Fields} (filled : Filled service encoded before after) :
    LeadsTo service encoded (.object after) := by
  refine ⟨after, rfl, filled.bundle, fun named unaddressed => ?_⟩
  rw [Fields.get, filled.others "url" (by decide) (by decide)] at unaddressed
  obtain ⟨said, target, _, found, aimed⟩ := filled.aimed named unaddressed
  refine ⟨target, found, aimed.name, aimed.scope, fun given => ?_⟩
  rw [aimed.port, if_neg (by simp [given])]

/-- All webhooks of a configuration have client configurations that lead to a service. -/
def AllLeadTo (service : Service) (encoded definition : Value) : Prop :=
  ∃ webhooks, ((definition.get? "webhooks").getD .null).orElse (.list []) = .list webhooks ∧
    ∀ webhook ∈ webhooks, ∃ fields config, webhook = .object fields ∧
      Fields.get? fields "clientConfig" = some config ∧ LeadsTo service encoded config

/-- Where the webhooks lead is no matter of anything else in the manifest. -/
theorem AllLeadTo.congr {other : Value} (leads : AllLeadTo service encoded definition)
    (same : other.get? "webhooks" = definition.get? "webhooks") :
    AllLeadTo service encoded other := by
  rwa [AllLeadTo, same]

/-- A configuration whose webhooks get the bundle leads to the service. -/
theorem allLeadTo_of_intoConfiguration
    (success : (intoConfiguration encoded service definition).1.outcome = .ok changed) :
    AllLeadTo service encoded changed := by
  have each := (altered_of_intoConfiguration success).get?
  rw [AllLeadTo]
  generalize definition.get? "webhooks" = before, changed.get? "webhooks" = after at each
  cases each with
  | none blank => exact ⟨[], by simp [Value.orElse, blank], by simp⟩
  | @all webhooks webhooks' each =>
    refine ⟨webhooks', by cases webhooks' <;> rfl, ?_⟩
    induction each with
    | nil => simp
    | cons here _ ih =>
      obtain ⟨fields, config, config', rfl, found, filled⟩ := exists_filled_of_altered here
      exact List.forall_mem_cons.mpr
        ⟨⟨fields, _, rfl, found, leadsTo_of_filled filled⟩, ih⟩

/-- Injection reaches the client configuration of every webhook of a configuration and the one of a
definition that a webhook converts; nothing else in these manifests changes but levels on the way
that were absent or null, and any other manifest stays as it is. -/
theorem alters_client_configs
    (success : (run bundle service definition).change.outcome = .ok changed) :
    (isConfiguration definition = .ok true →
      Value.Altered (EachFilled service (CABundle.written bundle)) ["webhooks"]
        (some definition) (some changed)) ∧
    (needsConversion definition = .ok true →
      Value.Altered (FilledAt service (CABundle.written bundle)) conversionPath.parts
        (some definition) (some changed)) ∧
    (isConfiguration definition ≠ .ok true → needsConversion definition ≠ .ok true →
      changed = definition) := by
  obtain ⟨configuration, into⟩ | ⟨other, converts, into⟩ | ⟨other, other', rfl⟩ :=
    run_eq_ok_iff.mp success
  · refine ⟨fun _ => altered_of_intoConfiguration into, fun converts => ?_,
      fun other => absurd configuration other⟩
    simp [needsConversion_of_isConfiguration configuration] at converts
  · refine ⟨fun configuration => ?_, fun _ => altered_of_intoConversion into,
      fun _ other' => absurd converts other'⟩
    simp [other] at configuration
  · exact ⟨by simp [other], by simp [other'], fun _ _ => rfl⟩

/-- A webhook configuration with one webhook that has no client configuration yet, one that is
called by its address, and one that says at which path of its service it is reached. -/
def assorted : Value :=
  .object [("apiVersion", .text "admissionregistration.k8s.io/v1"),
    ("kind", .text "MutatingWebhookConfiguration"),
    ("webhooks", .list [.object [("name", .text "a"), ("clientConfig", .null)],
      .object [("clientConfig", .object [("url", .text "https://b")])],
      .object [("clientConfig", .object [("service", .object [("path", .text "/c"),
        ("port", .int 1)])])]])]

/-- A definition that a webhook converts about which nothing else is said. -/
def converting : Value :=
  .object [("apiVersion", .text "apiextensions.k8s.io/v1"),
    ("kind", .text "CustomResourceDefinition"),
    ("spec", .object [("conversion", .object [("strategy", .text "Webhook"),
      ("webhook", .null)])])]

def serving (name : String) (port : Value) : Service :=
  ⟨.text name, .text "n", port⟩

/-- All three webhooks are filled, and so is the client configuration that the definition lacks. -/
theorem alters_client_configs_assorted : ∃ changed changed',
    (run [99, 97] (serving "q" .null) assorted).change.outcome = .ok changed ∧
    (run [99, 97] (serving "q" .null) converting).change.outcome = .ok changed' ∧
    Value.Altered (EachFilled (serving "q" .null) (CABundle.written [99, 97])) ["webhooks"]
      (some assorted) (some changed) ∧
    Value.Altered (FilledAt (serving "q" .null) (CABundle.written [99, 97]))
      ["spec", "conversion", "webhook", "clientConfig"] (some converting) (some changed') :=
  ⟨_, _, rfl, rfl, (alters_client_configs rfl).1 rfl, (alters_client_configs rfl).2.1 rfl⟩

end Injection

end ManifestOwnership.Webhook
