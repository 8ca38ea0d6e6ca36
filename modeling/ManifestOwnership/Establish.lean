import ManifestOwnership.OwnerReference.Merge
import ManifestOwnership.Webhook.Name
import ManifestOwnership.Webhook.CABundle

/-! # Establishing the objects of a revision

One pass makes a revision the owner or the controller of the objects it declares. The CA bundle is
fetched first, and a pass that needs one and has none is refused before any object is read. Then
each object is prepared, read under its final identity, and written once or not at all. The first
fault ends the pass; objects written before it stay written.
-/

namespace ManifestOwnership

/-- What was done to a declared object. -/
inductive Outcome where
  | created
  | updated
  | skipped
  deriving DecidableEq, Inhabited

def Outcome.name : Outcome → String
  | created => "CREATED"
  | updated => "UPDATED"
  | skipped => "SKIPPED"

/-- A declared object after the pass. -/
structure Established where
  reference : TypedReference
  outcome : Outcome

/-- Who establishes objects: where the TLS secret and the webhook service live, and the conventions
for webhooks. -/
structure Establisher where
  scope : Value
  label : Value
  lead : Value
  certificateKey : Value
  port : Value

namespace Establisher

def argumentNames : List String :=
  ["namespace", "parent_package_label", "webhook_name_prefix", "webhook_tls_cert_key",
    "webhook_service_port"]

/-- An establisher made from arguments; what is not given comes from the settings. -/
def ofArguments (settings : Settings) (arguments : Fields) : Except Fault Establisher :=
  if arguments.all fun (name, _) => argumentNames.contains name then
    let given (name : String) (setting : Setting) : Value :=
      (Fields.get arguments name).orElse (settings.value setting)
    let port := Fields.get arguments "webhook_service_port"
    .ok {
      scope := Fields.get arguments "namespace"
      label := given "parent_package_label" .parentPackageLabel
      lead := given "webhook_name_prefix" .webhookNamePrefix
      certificateKey := given "webhook_tls_cert_key" .webhookCertificateKey
      port := if port.isNull then settings.value .webhookServicePort else port }
  else .error .wrongType

/-- The namespace of the TLS secret and the webhook service. -/
def secretScope (establisher : Establisher) (settings : Settings) (parent : Revision) : Value :=
  (establisher.scope.orElse parent.scope).orElse (settings.value .fallbackNamespace)

end Establisher

/-- What a pass works with: who establishes, for which revision, with which bundle. -/
structure Pass where
  establisher : Establisher
  settings : Settings
  parent : Revision
  /-- The namespace of the TLS secret and the webhook service. -/
  scope : Value
  bundle : Option Webhook.CABundle
  /-- The flag for control, which any value can be given for. -/
  control : Value

namespace Pass

def takesControl (pass : Pass) : Bool :=
  pass.control.truthy

/-- The service that the revision's webhooks are reached at. -/
def service (pass : Pass) : Webhook.Service :=
  ⟨pass.parent.name, pass.scope, pass.establisher.port⟩

def injected (pass : Pass) (bundle : Webhook.CABundle) (definition : Value) : Log.Reported Value :=
  (Webhook.Injection.run bundle pass.service definition).reported

/-- The events that tell how a package was searched. -/
def searchEvents : PackageSearch → List Log.Event
  | .unlabelled label =>
    [Log.event .references .debug2 ("Revision has no [" ++ label.display ++ "] label")]
  | .unmatched package =>
    [Log.event .references .debug2
      ("No owner reference found for package [" ++ package.display ++ "]")]
  | .found _ => []

/-- The events that tell how a name was chosen. -/
def namingEvents : Webhook.Naming → List Log.Event
  | .ordinary _ => []
  | .kept declared search =>
    searchEvents search ++ [Log.event .webhooks .debug2
      ("Keeping declared webhook configuration name [" ++ declared.display ++ "]")]
  | .derived declared name =>
    [Log.event .webhooks .debug2 ("Renaming webhook configuration [" ++ declared.display ++
      "] to [" ++ name ++ "]")]

/-- A manifest whose metadata, if absent or null, is an object. -/
def withMetadata (declared : Value) : Except Fault Value := do
  let metadata ← declared.field "metadata"
  if metadata.isNull then declared.setField "metadata" (.object []) else return declared

/-- The desired form of a declared object: under its final name, and with the bundle if it has
webhooks and there is one. -/
def prepare (pass : Pass) (declared : Value) : Log.Reported Value := do
  let desired ← withMetadata declared
  if ← Webhook.isConfiguration desired then
    let naming ← Webhook.Naming.run pass.settings pass.establisher.lead pass.establisher.label
      desired pass.parent.definition
    Log.Reported.tell (namingEvents naming)
    let metadata ← desired.field "metadata"
    let named ← metadata.setField "name" naming.name
    let desired ← desired.setField "metadata" named
    match pass.bundle with
    | some bundle => pass.injected bundle desired
    | none => return desired
  else
    match pass.bundle with
    | none => return desired
    | some bundle =>
      if ← Webhook.needsConversion desired then pass.injected bundle desired
      else return desired

/-- A target with the owners of an object and the revision merged among them. -/
def owned (pass : Pass) (control : Bool) (object target : Value) : Log.Reported Value := do
  let owners ← Manifest.owners object
  let parent := pass.parent.reference
  if control then
    Log.Reported.tell ((parent.losers owners).map fun loser =>
      Log.event .references .debug2
        ("Releasing control held by " ++ loser.kind.display ++ "/" ++ loser.name.display))
  .ofExcept (Manifest.setOwners (parent.merge control owners) target)

/-- A desired object that carries the version of the current one, so that it replaces no other. -/
def atVersion (current desired : Value) : Except Fault Value := do
  let version ← (← current.fieldOrEmpty "metadata").field "resourceVersion"
  if version.truthy then
    desired.setField "metadata"
      (← (← desired.field "metadata").setField "resourceVersion" version)
  else return desired

/-- The request that reads the object a manifest describes. -/
def reading (desired : Value) : Except Fault Store.Request := do
  let metadata ← desired.field "metadata"
  let apiVersion ← desired.field "apiVersion"
  let kind ← desired.field "kind"
  return .get apiVersion kind (← metadata.field "name") (← metadata.field "namespace")

/-- Creates a missing object if the revision takes control. -/
def create (pass : Pass) (desired : Value) : Interaction Store.Request Value (Value × Outcome) := do
  if pass.takesControl then
    let target ← pass.owned true desired desired
    let _ ← Interaction.ask (.create target)
    return (target, .created)
  else
    let identity ← Manifest.identity desired
    .report (Log.event .establishing .debug2 ("Not creating [" ++ identity ++ "] without control"))
      (pure (desired, .skipped))

/-- Updates an existing object: to the desired content if the revision takes control, and otherwise
in its owners alone. -/
def update (pass : Pass) (current desired : Value) :
    Interaction Store.Request Value (Value × Outcome) := do
  if pass.takesControl then
    let versioned ← atVersion current desired
    let target ← pass.owned true current versioned
    let _ ← Interaction.ask (.update target)
    return (target, .updated)
  else
    let target ← pass.owned false current current
    let _ ← Interaction.ask (.update target)
    return (desired, .updated)

/-- Reads a desired object and writes it as the reply demands. A fault that says the object is
missing is the one fault that does not end the pass. -/
def apply (pass : Pass) (desired : Value) :
    Interaction Store.Request Value (Value × Outcome) := do
  let request ← reading desired
  match ← Interaction.tryAsk request with
  | .ok current => if current.isNull then pass.create desired else pass.update current desired
  | .error fault => if fault.isObjectMissing then pass.create desired else .fail fault

def establishOne (pass : Pass) (declared : Value) :
    Interaction Store.Request Value Established := do
  let desired ← pass.prepare declared
  let (final, outcome) ← pass.apply desired
  let reference ← TypedReference.ofManifest final
  let identity ← Manifest.identity final
  .report (.note ⟨.establishing, .debug, outcome.name ++ " [" ++ identity ++ "]",
      some (final, pass.parent.name)⟩)
    (pure ⟨reference, outcome⟩)

def establishAll (pass : Pass) : List Value → Interaction Store.Request Value (List Established)
  | [] => pure []
  | declared :: rest => do
    let first ← pass.establishOne declared
    let others ← pass.establishAll rest
    return first :: others

end Pass

namespace Establisher

/-- Refuses declared objects of which one needs a conversion webhook. -/
def refuseConversion : List Value → Log.Reported Unit
  | [] => pure ()
  | declared :: rest => do
    if ← Webhook.needsConversion declared then
      let identity ← Manifest.identity declared
      Log.Reported.tell [Log.event .establishing .warning
        ("Cannot establish [" ++ identity ++ "] without a webhook CA")]
      .fail (.problem .conversionWithoutAuthority
        Problem.conversionWithoutAuthority.defaultMessage)
    else refuseConversion rest

/-- One pass over the objects that a revision declares, which are a list unless the caller errs. -/
def pass (establisher : Establisher) (settings : Settings) (objects : Value)
    (parent : Revision) (control : Value) :
    Interaction Store.Request Value (List Established) := do
  let scope := establisher.secretScope settings parent
  let bundle ← Webhook.CABundle.fetch settings parent scope establisher.certificateKey
  let declared ← objects.elements
  if bundle.isNone then
    refuseConversion declared
  let results ← Pass.establishAll ⟨establisher, settings, parent, scope, bundle, control⟩ declared
  .report (Log.event .establishing .info
      ("Established " ++ toString results.length ++ " objects for [" ++ parent.display ++
        "] (control=" ++ control.display ++ ")"))
    (pure results)

def titled {α : Type} (activity : Interaction Store.Request Value α) :
    Interaction Store.Request Value α :=
  activity.titled .establishing .debug "establish_objects()"

/-- Establishes the objects of a revision. -/
def establish (establisher : Establisher) (settings : Settings) (objects : Value)
    (parent : Revision) (control : Value) : Interaction Store.Request Value (List Established) :=
  titled (establisher.pass settings objects parent control)

/-- Establishes the objects of the revision that a manifest describes. -/
def establishFor (establisher : Establisher) (settings : Settings) (objects : Value)
    (parent control : Value) : Interaction Store.Request Value (List Established) :=
  titled do
    let parent ← Revision.ofManifest parent
    establisher.pass settings objects parent control

end Establisher

end ManifestOwnership
