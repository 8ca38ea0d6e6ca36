import ManifestOwnership.Webhook.Kind
import ManifestOwnership.Revision
import ManifestOwnership.Settings
import ManifestOwnership.Store.Request
import ManifestOwnership.Interaction
import ManifestOwnership.Text.Base64

/-! # The CA bundle of webhooks

The API server trusts a webhook through a CA bundle. It is read from the TLS secret that a revision
names, and put into every client configuration of a manifest with webhooks. Injection changes a
manifest step by step, and a fault leaves the steps before it done; the result holds both.
-/

namespace ManifestOwnership.Webhook

/-- The bytes of a CA bundle. -/
abbrev CABundle := List UInt8

/-- A service that webhooks are reached at; a null port is not set. -/
structure Service where
  name : Value
  scope : Value
  port : Value
  deriving Inhabited

/-- A value under change, and the fault that stopped the change. -/
structure Change (α : Type) where
  value : α
  fault : Option Fault

namespace Change

def made {α : Type} (value : α) : Change α := ⟨value, none⟩

/-- A change that a fault stopped. -/
def stopped {α : Type} (value : α) (fault : Fault) : Change α := ⟨value, some fault⟩

def inside {α β : Type} (change : Change α) (whole : α → β) : Change β :=
  ⟨whole change.value, change.fault⟩

/-- Goes on changing unless a fault stopped it. -/
def andThen {α : Type} (change : Change α) (next : α → Change α) : Change α :=
  match change.fault with
  | none => next change.value
  | some fault => ⟨change.value, some fault⟩

/-- Changes items in order; the first fault leaves the items after it as they are. -/
def each {α : Type} (step : α → Change α) : List α → Change (List α)
  | [] => made []
  | item :: rest =>
    let first := step item
    match first.fault with
    | none => (each step rest).inside (first.value :: ·)
    | some fault => stopped (first.value :: rest) fault

def outcome {α : Type} (change : Change α) : Except Fault α :=
  match change.fault with
  | none => .ok change.value
  | some fault => .error fault

end Change

namespace Injection

/-- Makes sure that a webhook has a client configuration that is not null. -/
def ensureConfig : Value → Change Value
  | .object fields =>
    if (Fields.get fields "clientConfig").isNull then
      .made (.object (Fields.set fields "clientConfig" (.object [])))
    else .made (.object fields)
  | value => .stopped value .lacksOperation

/-- Points a client configuration at a service, keeping what else it says about the service. -/
def pointAt (service : Service) (config : Fields) : Change Fields :=
  match (Fields.get config "service").orElse (.object []) with
  | .object existing =>
    let named := Fields.set (Fields.set existing "name" service.name) "namespace" service.scope
    let complete := if service.port.isNull then named else Fields.set named "port" service.port
    .made (Fields.set config "service" (.object complete))
  | _ => .stopped config .wrongType

/-- Gives a client configuration the bundle, and the service if the webhook is not called by its
address. -/
def fillConfig (encoded : Value) (service : Service) : Value → Change Value
  | .object fields =>
    let bundled := Fields.set fields "caBundle" encoded
    if service.name.truthy && !(Fields.get bundled "url").truthy then
      (pointAt service bundled).inside .object
    else .made (.object bundled)
  | value => .stopped value .wrongType

def fillWebhook (encoded : Value) (service : Service) : Value → Change Value
  | .object fields =>
    (fillConfig encoded service (Fields.get fields "clientConfig")).inside fun config =>
      .object (Fields.set fields "clientConfig" config)
  | value => .stopped value .lacksOperation

/-- Where a custom resource definition keeps the client configuration of its webhook. -/
def conversionPath : Path :=
  ⟨["spec", "conversion", "webhook"], "clientConfig"⟩

/-- Injects into all webhooks of a webhook configuration. Every webhook gets a client configuration
before the first one is filled. -/
def intoConfiguration (encoded : Value) (service : Service) (definition : Value) :
    Change Value × Nat :=
  match definition with
  | .object fields =>
    match (Fields.get fields "webhooks").orElse (.list []) with
    | .list webhooks =>
      if webhooks.isEmpty then (.made definition, 0)
      else
        (((Change.each ensureConfig webhooks).andThen
          (Change.each (fillWebhook encoded service))).inside fun changed =>
            .object (Fields.set fields "webhooks" (.list changed)), webhooks.length)
    | .text _ => (.stopped definition .lacksOperation, 0)
    | .object _ => (.stopped definition .lacksOperation, 0)
    | _ => (.stopped definition .wrongType, 0)
  | _ => (.stopped definition .lacksOperation, 0)

/-- Injects into the conversion webhook of a custom resource definition. -/
def intoConversion (encoded : Value) (service : Service) (definition : Value) : Change Value :=
  match definition.atOr conversionPath .null with
  | .error fault => .stopped definition fault
  | .ok config =>
    let filled := fillConfig encoded service (if config.isNull then .object [] else config)
    match definition.setAt conversionPath filled.value with
    | .error fault => .stopped definition fault
    | .ok changed => ⟨changed, filled.fault⟩

end Injection

/-- What injecting a bundle made of a manifest. -/
structure Injection where
  change : Change Value
  /-- How many client configurations there were to fill, if the manifest is one with webhooks. -/
  count : Option Nat

namespace Injection

/-- Injects a bundle into a manifest; one without webhooks stays as it is. -/
def run (bundle : CABundle) (service : Service) (definition : Value) : Injection :=
  let encoded := Value.text (String.ofList (Text.Base64.encode bundle))
  match isConfiguration definition with
  | .error fault => ⟨.stopped definition fault, none⟩
  | .ok true =>
    let (change, count) := intoConfiguration encoded service definition
    ⟨change, some count⟩
  | .ok false =>
    match needsConversion definition with
    | .error fault => ⟨.stopped definition fault, none⟩
    | .ok true => ⟨intoConversion encoded service definition, some 1⟩
    | .ok false => ⟨.made definition, none⟩

/-- The changed manifest, reported with the number of client configurations. -/
def reported (injection : Injection) : Log.Reported Value :=
  match injection.change.outcome, injection.count with
  | .ok changed, some count =>
    ⟨[Log.event .webhooks .debug2 ("Injected CA bundle into " ++ toString count ++
      " client configs")], .ok changed⟩
  | outcome, _ => .ofExcept outcome

end Injection

namespace CABundle

/-- The bundle that an encoded text holds; nothing that counts as given is no bundle. -/
def ofEncoded : Value → Except Fault CABundle
  | .text s => if s = "" then .ok [] else Text.Base64.decode s.toList
  | value => if value.truthy then .error .wrongType else .ok []

/-- The bundle under a key of a secret, which must not be empty. -/
def ofSecret (key secret : Value) : Except Fault CABundle := do
  let data ← secret.fieldOrEmpty "data"
  let bundle ← ofEncoded (← data.fieldNamed key)
  if bundle.isEmpty then
    throw (.problem .secretWithoutBundle Problem.secretWithoutBundle.defaultMessage)
  return bundle

/-- Fetches the bundle of a revision from the TLS secret it names in a namespace; there is none if
it names no secret. The key is taken from the settings if it is not given. -/
def fetch (settings : Settings) (revision : Revision) (scope key : Value) :
    Interaction Store.Request Value (Option CABundle) := do
  let name ← revision.secretName
  if !name.truthy then
    .report (Log.event .webhooks .debug2
      ("No webhook TLS secret configured for [" ++ revision.display ++ "]")) (pure none)
  else
    let key := key.orElse (settings.value .webhookCertificateKey)
    let shown := "[" ++ scope.display ++ "/" ++ name.display ++ "]"
    .report (Log.event .webhooks .debug2 ("Fetching webhook TLS secret " ++ shown))
      (.request (.get (.text "v1") (.text "Secret") name scope) fun
        | .error cause =>
          .report (Log.event .webhooks .warning ("Failed to get webhook TLS secret " ++ shown))
            (.fail (.secretUnreadable Problem.secretUnreadable.defaultMessage cause))
        | .ok secret => .ofExcept ((ofSecret key secret).map some))

end CABundle

end ManifestOwnership.Webhook
