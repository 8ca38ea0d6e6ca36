import ManifestOwnership.Establish
import ManifestOwnership.Proofs.OwnerReference.Codec
import ManifestOwnership.Proofs.Store.Write
import ManifestOwnership.Proofs.Webhook.Bundles

/-! # The desired form of a declared object

A declared object is prepared in two steps: it gets its final name, which decides its identity, and
then the bundle. `Pass.outcome_prepare` splits the preparation into these. Neither step touches the
rest of the metadata, so the owners and the managed fields of a desired object are the declared
ones.
-/

namespace ManifestOwnership

namespace Webhook

variable {definition changed : Value} {service : Service} {name : String}

/-- A manifest with a bundle, or the manifest itself if there is none. -/
def Service.inject (service : Service) (bundle : Option CABundle) (definition : Value) :
    Except Fault Value :=
  match bundle with
  | none => .ok definition
  | some bundle => (Injection.run bundle service definition).change.outcome

/-- Injection changes the webhooks and the way of conversion and nothing else. -/
theorem get?_of_inject {bundle : Option CABundle}
    (success : service.inject bundle definition = .ok changed)
    (webhooks : name ≠ "webhooks") (spec : name ≠ "spec") :
    changed.get? name = definition.get? name := by
  cases bundle with
  | none =>
    obtain rfl := Except.ok.inj success
    rfl
  | some bundle =>
    obtain ⟨_, rfl⟩ := Change.outcome_eq_ok_iff.mp success
    exact Injection.get?_run bundle service definition webhooks spec

theorem Injection.outcome_reported (injection : Injection) :
    injection.reported.outcome = injection.change.outcome := by
  unfold reported
  split
  · next found _ => exact found.symm
  · rfl

end Webhook

namespace Establisher

def renamed (establisher : Establisher) (settings : Settings) (parent : Revision)
    (declared : Value) : Except Fault Value := do
  let desired ← Pass.withMetadata declared
  if ← Webhook.isConfiguration desired then
    let naming ← Webhook.Naming.run settings establisher.lead establisher.label desired
      parent.definition
    let metadata ← desired.field "metadata"
    desired.setField "metadata" (← metadata.setField "name" naming.name)
  else return desired

/-- The identity under which a declared object is established. -/
def finalKey (establisher : Establisher) (settings : Settings) (parent : Revision)
    (declared : Value) : Except Fault Store.ObjectKey := do
  Store.ObjectKey.ofManifest (← establisher.renamed settings parent declared)

end Establisher

variable {establisher : Establisher} {settings : Settings} {parent : Revision}
  {declared renamed desired : Value}

/-- Metadata that is absent or null is as good as an object without fields. -/
theorem fieldOrEmpty_of_withMetadata (success : Pass.withMetadata declared = .ok desired)
    (formed : Manifest.Formed desired) :
    declared.fieldOrEmpty "metadata" = .ok (.object declared.metadata) ∧
      desired.metadata = declared.metadata := by
  simp only [Pass.withMetadata, bind_eq_ok_iff, Value.field_eq_ok_iff] at success
  obtain ⟨metadata, ⟨content, rfl, read⟩, success⟩ := success
  cases metadata with
  | null =>
    obtain rfl := Except.ok.inj success
    have absent : Value.metadata (.object content) = [] := by
      cases found : Fields.get? content "metadata" with
      | none => simp [Value.metadata, found]
      | some value =>
        obtain rfl : value = .null := by simpa [Fields.get, found] using read
        simp [Value.metadata, found]
    constructor
    · simp [Value.fieldOrEmpty, Value.field, Value.fields, Except.map, read, absent, Value.orElse,
        Value.truthy]
    · rw [absent]
      simp [Value.metadata]
  | _ =>
    obtain rfl := Except.ok.inj success
    exact ⟨formed.fieldOrEmpty_metadata, rfl⟩

theorem get?_of_withMetadata {name : String} (success : Pass.withMetadata declared = .ok desired)
    (other : name ≠ "metadata") : desired.get? name = declared.get? name := by
  simp only [Pass.withMetadata, bind_eq_ok_iff] at success
  obtain ⟨metadata, _, success⟩ := success
  split at success
  · obtain ⟨fields, rfl, rfl⟩ := Value.setField_eq_ok_iff.mp success
    exact Fields.get?_set_of_ne _ _ other
  · rw [pure_eq_ok_iff.mp success]

namespace Establisher

/-- Renaming gives a webhook configuration its name and changes nothing else. -/
theorem renamed_cases (success : establisher.renamed settings parent declared = .ok renamed)
    (formed : Manifest.Formed renamed) : ∃ desired, Pass.withMetadata declared = .ok desired ∧
      Manifest.Formed desired ∧
      ((Webhook.isConfiguration desired = .ok false ∧ renamed = desired) ∨
        Webhook.isConfiguration desired = .ok true ∧ ∃ naming,
          Webhook.Naming.run settings establisher.lead establisher.label desired
              parent.definition = .ok naming ∧
            renamed = desired.withMetadata (Fields.set desired.metadata "name" naming.name)) := by
  simp only [Establisher.renamed, bind_eq_ok_iff] at success
  obtain ⟨desired, prepared, isConfiguration, classified, success⟩ := success
  refine ⟨desired, prepared, ?_⟩
  cases isConfiguration with
  | true =>
    simp only [if_true, bind_eq_ok_iff] at success
    obtain ⟨naming, run, metadata, read, named, write, success⟩ := success
    obtain ⟨fields, rfl, rfl⟩ := Value.setField_eq_ok_iff.mp write
    have formed' := Manifest.formed_iff_field.mpr ⟨fields, read⟩
    rw [formed'.field_metadata, Except.ok.injEq, Value.object.injEq] at read
    subst read
    rw [formed'.setField_metadata, Except.ok.injEq] at success
    exact ⟨formed', .inr ⟨classified, naming, run, success.symm⟩⟩
  | false =>
    obtain rfl := pure_eq_ok_iff.mp success
    exact ⟨formed, .inl ⟨classified, rfl⟩⟩

/-- A declared object keeps its metadata but for the name. -/
theorem get?_metadata_renamed
    (success : establisher.renamed settings parent declared = .ok renamed)
    (formed : Manifest.Formed renamed) {name : String} (other : name ≠ "name") :
    Fields.get? renamed.metadata name = Fields.get? declared.metadata name := by
  obtain ⟨desired, prepared, formed', ⟨_, rfl⟩ | ⟨_, naming, _, rfl⟩⟩ :=
    renamed_cases success formed
  · rw [(fieldOrEmpty_of_withMetadata prepared formed').2]
  · rw [formed'.metadata_withMetadata, Fields.get?_set_of_ne _ _ other,
      (fieldOrEmpty_of_withMetadata prepared formed').2]

/-- Renaming leaves what a declared object says beside its metadata. -/
theorem exists_content_renamed
    (success : establisher.renamed settings parent declared = .ok renamed)
    (formed : Manifest.Formed renamed) : ∃ content content', declared = .object content ∧
      renamed = .object content' ∧
      ∀ name, name ≠ "metadata" → Fields.get? content' name = Fields.get? content name := by
  obtain ⟨desired, prepared, formed', shape⟩ := renamed_cases success formed
  obtain ⟨content, rfl, _⟩ :=
    Value.fieldOrEmpty_eq_ok_iff.mp (fieldOrEmpty_of_withMetadata prepared formed').1
  obtain ⟨content', rfl, _⟩ := formed.eq_object
  refine ⟨content, content', rfl, rfl, fun name other => ?_⟩
  rw [← Value.get?_object, ← Value.get?_object, ← get?_of_withMetadata prepared other]
  obtain ⟨_, same⟩ | ⟨_, _, _, same⟩ := shape
  · rw [same]
  · rw [same, Manifest.get?_withMetadata_of_ne _ _ other]

theorem owners_renamed (success : establisher.renamed settings parent declared = .ok renamed)
    (formed : Manifest.Formed renamed) :
    Manifest.owners renamed = Manifest.owners declared := by
  obtain ⟨desired, prepared, formed', _⟩ := renamed_cases success formed
  have declaredOwners : Manifest.owners declared =
      Manifest.ownersListed (Fields.get declared.metadata "ownerReferences") := by
    rw [Manifest.owners, (fieldOrEmpty_of_withMetadata prepared formed').1]
    rfl
  rw [declaredOwners, formed.owners_eq, Fields.get, Fields.get,
    get?_metadata_renamed success formed (by decide)]

end Establisher

namespace Pass

private theorem outcome_injected (pass : Pass) (bundle : Webhook.CABundle) (definition : Value) :
    (pass.injected bundle definition).outcome = pass.service.inject (some bundle) definition :=
  Webhook.Injection.outcome_reported _

private theorem inject_of_not_configuration {service : Webhook.Service}
    {bundle : Webhook.CABundle} {definition : Value}
    (other : Webhook.isConfiguration definition = .ok false) :
    service.inject (some bundle) definition = Webhook.needsConversion definition >>= fun needs =>
      if needs then service.inject (some bundle) definition else pure definition := by
  cases conversion : Webhook.needsConversion definition with
  | error fault =>
    simp only [Webhook.Service.inject, Webhook.Injection.run, other, conversion]
    rfl
  | ok needs =>
    cases needs with
    | true => rfl
    | false =>
      simp only [Webhook.Service.inject, Webhook.Injection.run, other, conversion]
      rfl

/-- A declared object is prepared by renaming it and then giving it the bundle. -/
theorem outcome_prepare (pass : Pass) (declared : Value) :
    (pass.prepare declared).outcome =
      pass.establisher.renamed pass.settings pass.parent declared >>=
        pass.service.inject pass.bundle := by
  rw [prepare, Establisher.renamed]
  simp only [Log.Reported.outcome_bind, Log.Reported.outcome_lift, bind_assoc]
  cases withMetadata declared with
  | error fault => rfl
  | ok desired =>
    cases configuration : Webhook.isConfiguration desired with
    | error fault => simp only [ok_bind, configuration]; rfl
    | ok isConfiguration =>
      cases isConfiguration with
      | true =>
        simp only [ok_bind, configuration, if_true, Log.Reported.outcome_bind,
          Log.Reported.outcome_lift, Log.Reported.outcome_tell, bind_assoc]
        refine bind_congr fun naming => bind_congr fun metadata => bind_congr fun named =>
          bind_congr fun desired => ?_
        cases pass.bundle with
        | none => rfl
        | some bundle => exact outcome_injected pass bundle desired
      | false =>
        simp only [ok_bind, configuration, Bool.false_eq_true, if_false, pure_bind]
        cases pass.bundle with
        | none => rfl
        | some bundle =>
          rw [inject_of_not_configuration configuration, Log.Reported.outcome_bind]
          refine bind_congr fun needs => ?_
          cases needs with
          | true => exact outcome_injected pass bundle desired
          | false => rfl

section

variable {pass : Pass} (success : (pass.prepare declared).outcome = .ok desired)
  (formed : Manifest.Formed desired)

include success formed

/-- A desired object is the renamed one with the bundle, and its metadata is that of the renamed
one. -/
theorem prepare_cases : ∃ renamed,
    pass.establisher.renamed pass.settings pass.parent declared = .ok renamed ∧
      pass.service.inject pass.bundle renamed = .ok desired ∧
      Manifest.Formed renamed ∧ desired.metadata = renamed.metadata := by
  rw [outcome_prepare, bind_eq_ok_iff] at success
  obtain ⟨renamed, named, injected⟩ := success
  have metadata : desired.get? "metadata" = renamed.get? "metadata" :=
    Webhook.get?_of_inject injected (by decide) (by decide)
  refine ⟨renamed, named, injected, ?_, ?_⟩
  · rw [formed.get?_metadata] at metadata
    exact Manifest.formed_iff_get?.mpr ⟨_, metadata.symm⟩
  · rw [Value.metadata, metadata, Value.metadata]

/-- A desired object has the final identity of the declared one. -/
theorem finalKey_eq : pass.establisher.finalKey pass.settings pass.parent declared =
    Manifest.key desired := by
  obtain ⟨renamed, named, injected, formed', metadata⟩ := prepare_cases success formed
  rw [Establisher.finalKey, named, ok_bind, formed'.writable.ofManifest_eq, Manifest.key,
    Manifest.key, metadata, Webhook.get?_of_inject injected (by decide) (by decide),
    Webhook.get?_of_inject injected (by decide) (by decide)]

/-- A desired object keeps the metadata of the declared one but for the name. -/
theorem get?_metadata_prepare {name : String} (other : name ≠ "name") :
    Fields.get? desired.metadata name = Fields.get? declared.metadata name := by
  obtain ⟨renamed, named, _, formed', metadata⟩ := prepare_cases success formed
  rw [metadata, Establisher.get?_metadata_renamed named formed' other]

/-- A desired object carries the bundle of the pass. -/
theorem carries_of_prepare {bundle : Webhook.CABundle} (present : pass.bundle = some bundle) :
    Webhook.Carries (Webhook.CABundle.written bundle) declared desired := by
  obtain ⟨renamed, named, injected, formed', _⟩ := prepare_cases success formed
  obtain ⟨content, content', rfl, rfl, same⟩ := Establisher.exists_content_renamed named formed'
  rw [present] at injected
  exact (Webhook.Injection.carries_of_run injected).congr fun name other => (same name other).symm

theorem owners_prepare : Manifest.owners desired = Manifest.owners declared := by
  obtain ⟨renamed, named, _, formed', metadata⟩ := prepare_cases success formed
  rw [← Establisher.owners_renamed named formed', formed.owners_eq, formed'.owners_eq, metadata]

end

end Pass

end ManifestOwnership
