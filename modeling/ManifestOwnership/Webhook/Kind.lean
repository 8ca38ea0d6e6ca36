import ManifestOwnership.Manifest

/-! # Objects with webhooks

Which manifests declare webhooks: the two kinds of webhook configuration, and the custom resource
definitions that leave version conversion to a webhook.
-/

namespace ManifestOwnership.Webhook

def configurationKinds : List String :=
  ["MutatingWebhookConfiguration", "ValidatingWebhookConfiguration"]

def configurationGroup : String := "admissionregistration.k8s.io"

def definitionKind : String := "CustomResourceDefinition"

def definitionGroup : String := "apiextensions.k8s.io"

/-- Where a custom resource definition names its way of conversion. -/
def strategyPath : Path :=
  ⟨["spec", "conversion"], "strategy"⟩

/-- The way of conversion that needs a webhook. -/
def webhookStrategy : String := "Webhook"

def isText (value : Value) (s : String) : Bool :=
  value.same (.text s)

def isConfiguration (definition : Value) : Except Fault Bool := do
  let kind ← definition.field "kind"
  if configurationKinds.any (isText kind) then
    return (← Manifest.groupOf (← definition.field "apiVersion")) == configurationGroup
  return false

/-- Whether a manifest is a custom resource definition that a webhook converts. -/
def needsConversion (definition : Value) : Except Fault Bool := do
  let kind ← definition.field "kind"
  if !isText kind definitionKind then return false
  let group ← Manifest.groupOf (← definition.field "apiVersion")
  if group != definitionGroup then return false
  return isText (← definition.atOr strategyPath .null) webhookStrategy

end ManifestOwnership.Webhook
