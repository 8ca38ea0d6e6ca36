import ManifestOwnership.Webhook.CABundle
import ManifestOwnership.Proofs.Webhook.Kind

/-! # What injection leaves

The outcome of a change is work like any other: a change inside a whole, one change after another
and the changes of a list are the mapped outcome, the sequence and the traversal. Two facts about
injection follow. A custom resource definition that is converted by a webhook carries the bundle
where the API server looks for it. And the bundle can be injected into every manifest whose
webhooks, if it has any, are objects as far as the bundle and the service go.
-/

namespace ManifestOwnership.Webhook

def CABundle.written (bundle : CABundle) : Value :=
  .text (String.ofList (Text.Base64.encode bundle))

namespace Change

variable {α β : Type}

theorem outcome_eq_ok_iff {change : Change α} {value : α} :
    change.outcome = .ok value ↔ change.fault = none ∧ change.value = value := by
  unfold outcome
  cases change.fault <;> simp

/-- Changes that went through and made the same are the same. -/
theorem eq_of_outcome {change other : Change α} {value : α} (success : change.outcome = .ok value)
    (success' : other.outcome = .ok value) : change = other := by
  obtain ⟨value, fault⟩ := change
  obtain ⟨value', fault'⟩ := other
  obtain ⟨rfl, rfl⟩ := outcome_eq_ok_iff.mp success
  obtain ⟨rfl, rfl⟩ := outcome_eq_ok_iff.mp success'
  rfl

@[simp] theorem outcome_made (value : α) : (made value).outcome = .ok value := rfl

@[simp] theorem outcome_stopped (value : α) (fault : Fault) :
    (stopped value fault).outcome = .error fault := rfl

@[simp] theorem outcome_inside (change : Change α) (whole : α → β) :
    (change.inside whole).outcome = change.outcome.map whole := by
  obtain ⟨value, fault | fault⟩ := change <;> rfl

@[simp] theorem outcome_andThen (change : Change α) (next : α → Change α) :
    (change.andThen next).outcome = change.outcome >>= fun value => (next value).outcome := by
  obtain ⟨value, fault | fault⟩ := change <;> rfl

@[simp] theorem outcome_each (step : α → Change α) (items : List α) :
    (each step items).outcome = items.mapM fun item => (step item).outcome := by
  induction items with
  | nil => rfl
  | cons item rest ih =>
    rw [List.mapM_cons, ← ih, each]
    rcases step item with ⟨value, fault | fault⟩
    · rw [outcome_inside]
      cases (each step rest).outcome <;> rfl
    · rfl

end Change

namespace Injection

variable {encoded definition changed config filled : Value} {service : Service} {fields : Fields}

/-- Where a custom resource definition keeps the bundle for its webhook. -/
def authorityPath : Path :=
  conversionPath.child "caBundle"

theorem outcome_intoConversion (encoded : Value) (service : Service) (definition : Value) :
    (intoConversion encoded service definition).outcome =
      definition.atOr conversionPath .null >>= fun config =>
        let filled := fillConfig encoded service (if config.isNull then .object [] else config)
        definition.setAt conversionPath filled.value >>= fun changed =>
          filled.outcome.map fun _ => changed := by
  rw [intoConversion]
  cases definition.atOr conversionPath .null with
  | error fault => rfl
  | ok config =>
    simp only [ok_bind]
    generalize fillConfig encoded service (if config.isNull then .object [] else config) = filled
    obtain ⟨value, fault⟩ := filled
    cases definition.setAt conversionPath value with
    | error _ => rfl
    | ok changed => cases fault <;> rfl

theorem get?_intoConfiguration {name : String} (encoded : Value) (service : Service)
    (definition : Value) (webhooks : name ≠ "webhooks") :
    (intoConfiguration encoded service definition).1.value.get? name = definition.get? name := by
  unfold intoConfiguration
  cases definition with
  | object fields =>
    simp only
    split
    · split_ifs
      · rfl
      · exact Fields.get?_set_of_ne _ _ webhooks
    all_goals rfl
  | _ => rfl

theorem get?_intoConversion {name : String} (encoded : Value) (service : Service)
    (definition : Value) (spec : name ≠ "spec") :
    (intoConversion encoded service definition).value.get? name = definition.get? name := by
  unfold intoConversion
  split
  · rfl
  · simp only
    split
    · rfl
    · next changed success =>
      obtain ⟨fields, written, rfl, below, rfl⟩ := Value.setAt_eq_ok_iff.mp success
      obtain ⟨_, _, _, _, rfl⟩ := Fields.writeBelow_cons_eq_ok_iff.mp below
      exact Fields.get?_set_of_ne _ _ spec

/-- Injection changes the webhooks and the way of conversion and nothing else, even if it fails. -/
theorem get?_run {name : String} (bundle : CABundle) (service : Service) (definition : Value)
    (webhooks : name ≠ "webhooks") (spec : name ≠ "spec") :
    (run bundle service definition).change.value.get? name = definition.get? name := by
  unfold run
  split
  · rfl
  · exact get?_intoConfiguration _ service definition webhooks
  · split
    · rfl
    · exact get?_intoConversion _ service definition spec
    · rfl

private theorem get?_pointAt {name : String} (service : Service) (fields : Fields)
    (other : name ≠ "service") :
    Fields.get? (pointAt service fields).value name = Fields.get? fields name := by
  unfold pointAt
  split
  · exact Fields.get?_set_of_ne _ _ other
  · rfl

/-- A client configuration that is an object holds the bundle, also if the service cannot be set. -/
theorem get?_fillConfig (encoded : Value) (service : Service) (fields : Fields) :
    ∃ fields', (fillConfig encoded service (.object fields)).value = .object fields' ∧
      Fields.get? fields' "caBundle" = some encoded := by
  have bundled : Fields.get? (Fields.set fields "caBundle" encoded) "caBundle" = some encoded :=
    Fields.get?_set_self _ _ _
  simp only [fillConfig]
  split_ifs
  · exact ⟨_, rfl, (get?_pointAt service _ (by decide)).trans bundled⟩
  · exact ⟨_, rfl, bundled⟩

/-- A client configuration that is filled holds the bundle. -/
theorem get?_of_fillConfig (success : (fillConfig encoded service config).outcome = .ok filled) :
    ∃ fields, filled = .object fields ∧ Fields.get? fields "caBundle" = some encoded := by
  cases config with
  | object fields =>
    rw [← (Change.outcome_eq_ok_iff.mp success).2]
    exact get?_fillConfig encoded service fields
  | _ => contradiction

/-- The bundle is put where the API server looks for it. -/
theorem at?_of_intoConversion
    (success : (intoConversion encoded service definition).outcome = .ok changed) :
    changed.at? authorityPath = .ok (some encoded) := by
  simp only [outcome_intoConversion, bind_eq_ok_iff, map_eq_ok_iff] at success
  obtain ⟨config, _, changed, written, filled, full, rfl⟩ := success
  have same := (Change.outcome_eq_ok_iff.mp full).2
  obtain ⟨fields, rfl, bundled⟩ := get?_of_fillConfig full
  rw [same] at written
  rw [← bundled]
  exact Value.at?_child_of_setAt written

/-- A client configuration is filled if its service is null or an object. -/
theorem exists_fillConfig (encoded : Value) (service : Service)
    (free : Fields.Open fields ["service"]) :
    ∃ filled, (fillConfig encoded service (.object fields)).outcome = .ok filled := by
  have kept : Fields.get (Fields.set fields "caBundle" encoded) "service" =
      Fields.get fields "service" := Fields.get_set_of_ne _ _ (by decide)
  have pointed : ∃ pointed,
      (pointAt service (Fields.set fields "caBundle" encoded)).outcome = .ok pointed := by
    rw [pointAt, kept]
    obtain absent | ⟨inner, found, _⟩ := Fields.open_cons_iff.mp free
    · rw [absent]
      exact ⟨_, rfl⟩
    · rw [found, Value.orElse_object]
      exact ⟨_, rfl⟩
  simp only [fillConfig]
  split_ifs
  · obtain ⟨pointed, success⟩ := pointed
    exact ⟨.object pointed, by rw [Change.outcome_inside, success]; rfl⟩
  · exact ⟨_, rfl⟩

/-- A webhook with a client configuration that can be filled. -/
def Fillable (webhook : Value) : Prop :=
  ∃ fields config, webhook = .object fields ∧ Fields.get fields "clientConfig" = .object config ∧
    Fields.Open config ["service"]

theorem exists_ensureConfig (free : Fields.Open fields ["clientConfig", "service"]) :
    ∃ ready, (ensureConfig (.object fields)).outcome = .ok ready ∧ Fillable ready := by
  obtain absent | ⟨config, found, below⟩ := Fields.open_cons_iff.mp free
  · refine ⟨.object (Fields.set fields "clientConfig" (.object [])), ?_, _, [], rfl,
      Fields.get_set_self _ _ _, Fields.open_empty _⟩
    rw [ensureConfig, absent]
    rfl
  · refine ⟨.object fields, ?_, fields, config, rfl, found, below⟩
    rw [ensureConfig, found]
    rfl

theorem exists_fillWebhook (encoded : Value) (service : Service) {webhook : Value}
    (fillable : Fillable webhook) :
    ∃ filled, (fillWebhook encoded service webhook).outcome = .ok filled := by
  obtain ⟨fields, config, rfl, found, free⟩ := fillable
  obtain ⟨filled, success⟩ := exists_fillConfig encoded service free
  rw [fillWebhook, found, Change.outcome_inside, success]
  exact ⟨_, rfl⟩

/-- A manifest lists its webhooks, if any, as objects that are open down to their services. -/
def Webhooked (definition : Value) : Prop :=
  (definition.get? "webhooks").getD .null = .null ∨
    ∃ webhooks, definition.get? "webhooks" = some (.list webhooks) ∧
      ∀ webhook ∈ webhooks, webhook.Open ["clientConfig", "service"]

/-- A bundle can be given to all webhooks of a configuration. -/
theorem exists_intoConfiguration (encoded : Value) (service : Service)
    (webhooked : Webhooked (.object fields)) :
    ∃ changed, (intoConfiguration encoded service (.object fields)).1.outcome = .ok changed := by
  obtain absent | ⟨webhooks, found, objects⟩ := webhooked
  · replace absent : Fields.get fields "webhooks" = .null := absent
    simp only [intoConfiguration, absent]
    exact ⟨_, rfl⟩
  · replace found : Fields.get fields "webhooks" = .list webhooks := by
      rw [Fields.get, ← Value.get?_object, found, Option.getD_some]
    cases webhooks with
    | nil =>
      simp only [intoConfiguration, found]
      exact ⟨_, rfl⟩
    | cons webhook rest =>
      have ensured : ∀ webhook' ∈ webhook :: rest,
          ∃ ready, (ensureConfig webhook').outcome = .ok ready ∧ Fillable ready := by
        intro webhook' member
        obtain ⟨inner, rfl, free⟩ := objects webhook' member
        exact exists_ensureConfig free
      obtain ⟨ready, all, fillable⟩ := exists_mapM ensured
      have filled : ∀ webhook' ∈ ready,
          ∃ filled, (fillWebhook encoded service webhook').outcome = .ok filled ∧ True := by
        intro webhook' member
        obtain ⟨filled, success⟩ := exists_fillWebhook encoded service (fillable webhook' member)
        exact ⟨filled, success, trivial⟩
      obtain ⟨filled, all', _⟩ := exists_mapM filled
      have listed : (Fields.get fields "webhooks").orElse (.list []) = .list (webhook :: rest) := by
        rw [found]
        rfl
      refine ⟨.object (Fields.set fields "webhooks" (.list filled)), ?_⟩
      simp only [intoConfiguration, listed, List.isEmpty_cons, Bool.false_eq_true, if_false,
        Change.outcome_inside, Change.outcome_andThen, Change.outcome_each, all, ok_bind, all']
      rfl

/-- A bundle can be given to a custom resource definition that is open down to the service. -/
theorem exists_intoConversion (encoded : Value) (service : Service)
    (free : definition.Open ["spec", "conversion", "webhook", "clientConfig", "service"]) :
    ∃ changed, (intoConversion encoded service definition).outcome = .ok changed := by
  obtain ⟨fields, rfl, inner⟩ := free
  have above : (Value.object fields).Open conversionPath.parents :=
    ⟨fields, rfl, Fields.Open.of_append ["clientConfig", "service"] inner⟩
  obtain ⟨found, read⟩ := above.exists_atOr .null
  have whole : (Value.object fields).Open
      (conversionPath.parents ++ conversionPath.last :: ["service"]) := ⟨fields, rfl, inner⟩
  have config : ∃ inner, (if found.isNull then .object [] else found) = Value.object inner ∧
      Fields.Open inner ["service"] := by
    obtain rfl | ⟨inner, rfl, below⟩ := whole.of_atOr read
    · exact ⟨[], rfl, Fields.open_empty _⟩
    · exact ⟨inner, rfl, below⟩
  obtain ⟨inner, config, below⟩ := config
  obtain ⟨present, place, _⟩ := map_eq_ok_iff.mp read
  obtain ⟨filled, full⟩ := exists_fillConfig encoded service below
  obtain ⟨changed, written⟩ :=
    Value.exists_setAt (fillConfig encoded service (.object inner)).value place
  refine ⟨changed, ?_⟩
  simp only [outcome_intoConversion, read, ok_bind, config, written, full]
  rfl

end Injection

end ManifestOwnership.Webhook
