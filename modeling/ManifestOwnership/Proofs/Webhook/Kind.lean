import ManifestOwnership.Webhook.Kind
import ManifestOwnership.Proofs.Value.Equality
import ManifestOwnership.Proofs.Value.Overwrite

/-! # What makes a manifest one with webhooks

A manifest is a webhook configuration, a custom resource definition that a webhook converts, or
neither, and never both. Which of them it is depends on its kind and API version and, for a
definition, on how it says it is converted; nothing else in the manifest matters.
-/

namespace ManifestOwnership.Webhook

variable {definition : Value} {content content' : Fields}

/-- A webhook configuration is not converted by a webhook. -/
theorem needsConversion_of_isConfiguration
    (configuration : isConfiguration definition = .ok true) :
    needsConversion definition = .ok false := by
  simp only [isConfiguration, bind_eq_ok_iff] at configuration
  obtain ⟨kind, read, configuration⟩ := configuration
  cases listed : configurationKinds.any (isText kind) with
  | false => simp [listed] at configuration
  | true =>
    obtain ⟨name, member, same⟩ := List.any_eq_true.mp listed
    obtain rfl := Value.same_text_iff.mp (Value.same_symm same)
    have differs : isText (.text name) definitionKind = false := by
      refine Bool.eq_false_iff.mpr fun equal => ?_
      obtain rfl := Value.text.inj (Value.same_text_iff.mp equal)
      revert member
      decide
    rw [needsConversion, read, ok_bind, differs]
    rfl

/-- Whether a manifest is a webhook configuration depends on its type. -/
theorem isConfiguration_eq (kind : Fields.get? content "kind" = Fields.get? content' "kind")
    (apiVersion : Fields.get? content "apiVersion" = Fields.get? content' "apiVersion") :
    isConfiguration (.object content) = isConfiguration (.object content') := by
  simp only [isConfiguration, Value.field, Value.fields, Except.map, Fields.get, kind, apiVersion]

/-- Whether a webhook converts an object depends on its type and on how it is converted. -/
theorem needsConversion_eq (kind : Fields.get? content "kind" = Fields.get? content' "kind")
    (apiVersion : Fields.get? content "apiVersion" = Fields.get? content' "apiVersion")
    (strategy : (Value.object content).at? strategyPath =
      (Value.object content').at? strategyPath) :
    needsConversion (.object content) = needsConversion (.object content') := by
  simp only [needsConversion, Value.field, Value.fields, Except.map, Fields.get, kind, apiVersion,
    Value.atOr, strategy]

/-- Whether a webhook converts an object depends on its type and its specification. -/
theorem needsConversion_congr
    (kind : Fields.get? content "kind" = Fields.get? content' "kind")
    (apiVersion : Fields.get? content "apiVersion" = Fields.get? content' "apiVersion")
    (spec : Fields.get? content "spec" = Fields.get? content' "spec") :
    needsConversion (.object content) = needsConversion (.object content') :=
  needsConversion_eq kind apiVersion (Value.at?_congr spec)

end ManifestOwnership.Webhook
