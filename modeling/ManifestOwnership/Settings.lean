import ManifestOwnership.Value

/-! # Settings

The values that everything not given explicitly falls back to. Each setting has a name and a
default; overrides replace values and may bring names of their own, which can then be read like
any other until they are reverted.
-/

namespace ManifestOwnership

/-- A setting of the library. -/
inductive Setting where
  | logLevel
  | logFilters
  | logJson
  | logThreadId
  | parentPackageLabel
  | webhookNamePrefix
  | webhookCertificateKey
  | webhookServicePort
  | fallbackNamespace
  | requestTimeout
  deriving DecidableEq, Inhabited

namespace Setting

def all : List Setting :=
  [logLevel, logFilters, logJson, logThreadId, parentPackageLabel, webhookNamePrefix,
    webhookCertificateKey, webhookServicePort, fallbackNamespace, requestTimeout]

def name : Setting → String
  | logLevel => "log_level"
  | logFilters => "log_filters"
  | logJson => "log_json"
  | logThreadId => "log_thread_id"
  | parentPackageLabel => "parent_package_label"
  | webhookNamePrefix => "webhook_name_prefix"
  | webhookCertificateKey => "webhook_tls_cert_key"
  | webhookServicePort => "webhook_service_port"
  | fallbackNamespace => "namespace"
  | requestTimeout => "request_timeout"

def default : Setting → Value
  | logLevel => .text "info"
  | logFilters => .text ""
  | logJson => .bool false
  | logThreadId => .bool false
  | parentPackageLabel => .text "pkg.crossplane.io/package"
  | webhookNamePrefix => .text "crossplane"
  | webhookCertificateKey => .text "tls.crt"
  | webhookServicePort => .int 9443
  | fallbackNamespace => .text "crossplane-system"
  | requestTimeout => .int 30

end Setting

/-- The settings in force: the overrides, under their names, and the defaults of all others. -/
structure Settings where
  overrides : Fields
  deriving Inhabited

namespace Settings

def defaults : Settings := ⟨[]⟩

def value (settings : Settings) (setting : Setting) : Value :=
  (Fields.get? settings.overrides setting.name).getD setting.default

/-- All settings as an object, with the names that only overrides bring. -/
def toValue (settings : Settings) : Value :=
  .object (settings.overrides.foldl (fun all (name, value) => Fields.set all name value)
    (Setting.all.map fun setting => (setting.name, setting.default)))

/-- The name under which all settings can be read at once. -/
def tableName : String := "library_config"

/-- The name under which the names of all settings can be read, whatever overrides them. -/
def namesName : String := "__all__"

/-- The value of a name, which may be one that only an override brings. -/
def lookup (settings : Settings) (name : String) : Except Fault Value :=
  if name = tableName then .ok settings.toValue
  else if name = namesName then .ok (.list (Setting.all.map fun setting => .text setting.name))
  else match Fields.get? settings.overrides name with
  | some value => .ok value
  | none =>
    match Setting.all.find? (·.name == name) with
    | some setting => .ok setting.default
    | none => .error (.unknownSetting name)

end Settings

end ManifestOwnership
