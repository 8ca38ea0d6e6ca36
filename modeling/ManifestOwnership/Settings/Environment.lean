import ManifestOwnership.Settings
import ManifestOwnership.Settings.Rules
import ManifestOwnership.Number.Numeral
import ManifestOwnership.Text.Blank
import ManifestOwnership.Text.LowerCase

/-! # Settings from the environment

Every setting can be overridden by the environment variable of its name in capitals. The text of a
variable is read as a boolean or a number if it looks like one, and the settings are loaded only if
all of them obey their rules.
-/

namespace ManifestOwnership

def Setting.rule : Setting → Value
  | .logLevel => .object [("type", .text "enum"), ("values", .list (
      ["off", "fatal", "error", "warning", "info", "trace", "debug", "debug1", "debug2", "debug3",
        "debug4"].map .text))]
  | .logFilters => .object [("type", .text "str")]
  | .logJson => .object [("type", .text "bool")]
  | .logThreadId => .object [("type", .text "bool")]
  | .parentPackageLabel => .object [("type", .text "str"), ("min_len", .int 1)]
  | .webhookNamePrefix => .object [("type", .text "str"), ("min_len", .int 1)]
  | .webhookCertificateKey => .object [("type", .text "str"), ("min_len", .int 1)]
  | .webhookServicePort => .object [("type", .text "int"), ("min", .int 1), ("max", .int 65535)]
  | .fallbackNamespace => .object [("type", .text "str"), ("min_len", .int 1)]
  | .requestTimeout =>
    .object [("type", .text "number"), ("min", .int 0), ("optional", .bool true)]

def Setting.variable (setting : Setting) : String :=
  setting.name.toUpper

namespace Settings

/-- The value that the text of a variable stands for, blanks at its ends apart. -/
def valueOfText (s : String) : Value :=
  let stripped := Text.stripBlanks s.toList
  let word := Text.lowerCase (String.ofList stripped)
  if word = "true" then .bool true
  else if word = "false" then .bool false
  else match Number.ofText? stripped with
    | some (.whole n) => .int n
    | some (.float x) => .float x
    | none => .text (String.ofList stripped)

/-- The settings under an environment, whether they obey their rules or not. -/
def ofEnvironment (environment : String → Option String) : Settings :=
  ⟨Setting.all.filterMap fun setting =>
    (environment setting.variable).map fun s => (setting.name, valueOfText s)⟩

def rules : Value :=
  .object (Setting.all.map fun setting => (setting.name, setting.rule))

/-- Loads the settings from an environment; a fault names the settings that break their rules. -/
def load (environment : String → Option String) : Except Fault Settings := do
  let settings := ofEnvironment environment
  let broken ← Rules.broken settings.toValue (← Rules.ofValue rules)
  if broken.isEmpty then return settings else throw (.invalidSettings broken)

end Settings

/-- How log events are shown, as the settings have it. -/
structure LogSetup where
  level : Value
  filters : Value
  json : Bool
  threadId : Value

/-- The set-up of logging that goes with settings. -/
def LogSetup.ofSettings (settings : Settings) : LogSetup :=
  { level := settings.value .logLevel
    filters := settings.value .logFilters
    json := (settings.value .logJson).truthy
    threadId := settings.value .logThreadId }

end ManifestOwnership
