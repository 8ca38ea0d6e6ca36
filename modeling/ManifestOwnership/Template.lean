import ManifestOwnership.Webhook.CABundle

/-! # Template manifests

Small manifests to try a pass on: a revision with its package, a custom resource definition, a
webhook configuration and a TLS secret. Arguments replace the defaults by name.
-/

namespace ManifestOwnership.Template

/-- An argument, a default if it is not given. -/
def argument (arguments : Fields) (name : String) (fallback : Value) : Value :=
  (Fields.get? arguments name).getD fallback

/-- Refuses arguments under other names than the given ones. -/
def checkNames (names : List String) (arguments : Fields) : Except Fault Unit :=
  if arguments.all fun (name, _) => names.contains name then .ok () else .error .wrongType

/-- A field, no field if its value does not count as given. -/
def givenField (name : String) (value : Value) : Fields :=
  if value.truthy then [(name, value)] else []

/-- A package revision. Unless told otherwise it carries the label of its package and the package
among its owners. -/
def revision (arguments : Fields) : Except Fault Value := do
  checkNames ["name", "kind", "api_version", "uid", "namespace", "package_kind", "package_name",
    "package_uid", "webhook_tls_secret_name", "with_package"] arguments
  let packageName := argument arguments "package_name" (.text "provider-name")
  let package : Fields :=
    if (argument arguments "with_package" (.bool true)).truthy then
      [("labels", .object [("pkg.crossplane.io/package", packageName)]),
        ("ownerReferences", .list [.object [("apiVersion", .text "pkg.crossplane.io/v1"),
          ("kind", argument arguments "package_kind" (.text "Provider")), ("name", packageName),
          ("uid", argument arguments "package_uid" (.text "some-unique-uid-2312"))]])]
    else []
  let metadata : Fields :=
    [("name", argument arguments "name" (.text "provider-name-abc123")),
      ("uid", argument arguments "uid" (.text "12345678-1234-1234-1234-123456789012"))] ++
    givenField "namespace" (argument arguments "namespace" .null) ++ package
  return .object [
    ("apiVersion", argument arguments "api_version" (.text "pkg.crossplane.io/v1")),
    ("kind", argument arguments "kind" (.text "ProviderRevision")),
    ("metadata", .object metadata),
    ("spec", .object (givenField "webhookTLSSecretName"
      (argument arguments "webhook_tls_secret_name" .null)))]

/-- A custom resource definition; arguments without a meaning of their own go to its metadata. -/
def customResource (arguments : Fields) : Value :=
  let strategy := argument arguments "conversion_strategy" .null
  let others := arguments.filter fun (name, _) => name != "name" && name != "conversion_strategy"
  .object [("apiVersion", .text "apiextensions.k8s.io/v1"),
    ("kind", .text "CustomResourceDefinition"),
    ("metadata", .object
      (("name", argument arguments "name" (.text "widgets.foo.bar.com")) :: others)),
    ("spec", .object ([("group", .text "foo.bar.com"),
      ("names", .object [("kind", .text "Widget")])] ++
      if strategy.truthy then [("conversion", .object [("strategy", strategy)])] else []))]

def webhook (name : Value) : Value :=
  .object [("name", name),
    ("clientConfig", .object [("service", .object [("path", .text "/validate")])])]

def webhookConfiguration (arguments : Fields) : Except Fault Value := do
  checkNames ["kind", "name", "webhook_names"] arguments
  let names ← (argument arguments "webhook_names" (.list [.text "some-webhook"])).elements
  return .object [("apiVersion", .text "admissionregistration.k8s.io/v1"),
    ("kind", argument arguments "kind" (.text "MutatingWebhookConfiguration")),
    ("metadata", .object [("name",
      argument arguments "name" (.text "crossplane-providerrevision-provider-name"))]),
    ("webhooks", .list (names.map webhook))]

/-- The certificate of a TLS secret that is given none. -/
def certificate : Webhook.CABundle :=
  "CABUNDLE".toUTF8.toList

/-- A TLS secret with a certificate, or with no data. -/
def tlsSecret (arguments : Fields) (certificate : Option Webhook.CABundle) :
    Except Fault Value := do
  checkNames ["name", "namespace"] arguments
  let data : Fields := match certificate with
    | some bytes => [("tls.crt", .text (String.ofList (Text.Base64.encode bytes)))]
    | none => []
  return .object [("apiVersion", .text "v1"), ("kind", .text "Secret"),
    ("metadata", .object [("name", argument arguments "name" (.text "webhook-tls")),
      ("namespace", argument arguments "namespace" (.text "test"))]),
    ("type", .text "kubernetes.io/tls"), ("data", .object data)]

end ManifestOwnership.Template
