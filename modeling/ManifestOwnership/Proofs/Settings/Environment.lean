import ManifestOwnership.Settings.Environment
import ManifestOwnership.Proofs.Settings.Rules
import Mathlib.Data.List.Nodup

/-! # Settings that an environment loads

The value of a setting under an environment is read from the variable of its own, or is its default.
Each rule looks at this value alone, so the verdicts on the settings do not depend on each other,
and the defaults obey all rules: what is reported are the variables to blame.
-/

namespace ManifestOwnership

namespace Setting

def ruleFields (setting : Setting) : Fields :=
  match setting.rule with
  | .object fields => fields
  | _ => []

def Allows (setting : Setting) (value : Value) : Prop :=
  Parameter.Permits setting.ruleFields value

def parameter (setting : Setting) : Parameter :=
  match Parameter.ofFields? setting.ruleFields with
  | .ok (some parameter) => parameter
  | _ => ⟨false, .switch⟩

theorem mem_all (setting : Setting) : setting ∈ all := by
  cases setting <;> simp [all]

theorem name_injective : Function.Injective name := by
  intro first second same
  have distinct : (all.map name).Nodup := by decide
  exact List.inj_on_of_nodup_map distinct first.mem_all second.mem_all same

/-- No two settings are read from one variable. -/
theorem variable_injective : Function.Injective Setting.variable := by
  intro first second same
  have distinct : (all.map fun setting => setting.name.toList.map Char.toUpper).Nodup := by decide
  refine List.inj_on_of_nodup_map distinct first.mem_all second.mem_all ?_
  simpa only [Setting.variable, String.toUpper, String.toList_map] using congrArg String.toList same

private theorem bounded (setting : Setting) : Parameter.Bounded setting.ruleFields := by
  cases setting <;>
    simp [Parameter.Bounded, ruleFields, rule, Fields.get, Fields.get?_cons, Value.number?]

private theorem ofFields?_ruleFields (setting : Setting) :
    Parameter.ofFields? setting.ruleFields = .ok (some setting.parameter) := by
  cases setting <;> rfl

/-- The parameter of a setting accepts what the setting allows. -/
theorem decides_accepts (setting : Setting) (value : Value) :
    Decides (setting.parameter.accepts value) (setting.Allows value) :=
  Parameter.decides_accepts setting.ofFields?_ruleFields setting.bounded value

theorem default_ne_null (setting : Setting) : setting.default ≠ .null := by
  cases setting <;> nofun

/-- A setting that nothing overrides obeys its rule. -/
theorem allows_default (setting : Setting) : setting.Allows setting.default := by
  have accepted : setting.parameter.accepts setting.default = .ok true := by
    cases setting <;> rfl
  obtain ⟨verdict, judged, same⟩ := setting.decides_accepts setting.default
  exact same.mp (Except.ok.inj (judged.symm.trans accepted))

end Setting

namespace Settings

variable {setting : Setting}

/-- The value of a setting under an environment: what its own variable says, or the default. -/
def valueUnder (environment : String → Option String) (setting : Setting) : Value :=
  ((environment setting.variable).map valueOfText).getD setting.default

/-- The override that an environment brings for a setting. -/
private def override (environment : String → Option String) (setting : Setting) :
    Option (String × Value) :=
  (environment setting.variable).map fun s => (setting.name, valueOfText s)

private theorem get?_overrides (environment : String → Option String) (setting : Setting)
    (settings : List Setting) :
    Fields.get? (settings.filterMap (override environment)) setting.name =
      if setting ∈ settings then (environment setting.variable).map valueOfText else none := by
  induction settings with
  | nil => rfl
  | cons first rest ih =>
    by_cases own : setting = first
    · subst own
      cases read : environment setting.variable with
      | none => simpa [override, read] using ih
      | some s => simp [override, read, Fields.get?_cons]
    · have apart : setting.name ≠ first.name := fun same => own (Setting.name_injective same)
      cases read : environment first.variable with
      | none => simpa [override, read, own] using ih
      | some s => simpa [override, read, own, Fields.get?_cons, apart] using ih

private theorem nodup_overrides (environment : String → Option String) :
    ((Setting.all.filterMap (override environment)).map Prod.fst).Nodup := by
  rw [List.map_filterMap]
  refine List.Nodup.filterMap ?_ (by decide)
  intro first second name
  simp only [override, Option.map_map, Option.mem_def, Option.map_eq_some_iff]
  rintro ⟨_, -, rfl⟩ ⟨_, -, same⟩
  exact (Setting.name_injective same).symm

/-- Settings under an environment have the values of their own variables. -/
theorem value_ofEnvironment (environment : String → Option String) (setting : Setting) :
    (ofEnvironment environment).value setting = valueUnder environment setting := by
  have found := get?_overrides environment setting Setting.all
  rw [if_pos setting.mem_all] at found
  rw [value, valueUnder]
  exact congrArg (·.getD setting.default) found

private theorem atOr_toValue (environment : String → Option String) (setting : Setting) :
    (ofEnvironment environment).toValue.atOr (Path.ofText setting.name) .null =
      .ok (valueUnder environment setting) := by
  have found := @Fields.get?_foldl_set _
    (Setting.all.map fun setting => (setting.name, setting.default)) (nodup_overrides environment)
    setting.name
  have base : Fields.get? (Setting.all.map fun setting => (setting.name, setting.default))
      setting.name = some setting.default := by
    cases setting <;> rfl
  have path : Path.ofText setting.name = ⟨[], setting.name⟩ := by cases setting <;> rfl
  rw [get?_overrides, if_pos setting.mem_all, base] at found
  rw [path, valueUnder]
  have read := congrArg (fun found : Option Value => found.getD .null) found
  refine (congrArg Except.ok read).trans ?_
  cases environment setting.variable <;> rfl

private theorem decides_judge (environment : String → Option String) (setting : Setting) :
    Decides (Rules.judge (ofEnvironment environment).toValue (setting.name, setting.parameter))
      (setting.Allows (valueUnder environment setting)) := by
  rw [Rules.judge, atOr_toValue]
  exact setting.decides_accepts _

private theorem ofValue_rules : Rules.ofValue rules =
    .ok (Setting.all.map fun setting => (setting.name, setting.parameter)) := rfl

/-- The names of the settings that break their rules. -/
theorem broken_ofEnvironment (environment : String → Option String) : ∃ names,
    Rules.broken (ofEnvironment environment).toValue
      (Setting.all.map fun setting => (setting.name, setting.parameter)) = .ok names ∧
    names.Sublist (Setting.all.map Setting.name) ∧
    ∀ setting : Setting, setting.name ∈ names ↔
      ¬ setting.Allows (valueUnder environment setting) := by
  refine ⟨_, Rules.broken_eq_ok_iff.mpr ⟨?_, rfl⟩, ?_, fun setting => ?_⟩
  · intro entry member
    obtain ⟨setting, -, rfl⟩ := List.mem_map.mp member
    obtain ⟨verdict, judged, -⟩ := decides_judge environment setting
    exact ⟨verdict, judged⟩
  · have names : (Setting.all.map fun setting => (setting.name, setting.parameter)).map Prod.fst =
        Setting.all.map Setting.name := List.map_map
    exact names ▸ List.filter_sublist.map Prod.fst
  · rw [← Rules.rejects_iff (decides_judge environment setting), List.mem_map]
    constructor
    · rintro ⟨entry, member, same⟩
      obtain ⟨listed, rejected⟩ := List.mem_filter.mp member
      obtain ⟨other, -, rfl⟩ := List.mem_map.mp listed
      obtain rfl := Setting.name_injective same
      exact rejected
    · intro rejected
      refine ⟨_, List.mem_filter.mpr ⟨List.mem_map.mpr ⟨setting, setting.mem_all, rfl⟩,
        rejected⟩, rfl⟩

/-- Loading succeeds unless there are settings that break their rules, and reports these. -/
theorem load_eq_of_broken {environment : String → Option String} {names : List String}
    (broken : Rules.broken (ofEnvironment environment).toValue
      (Setting.all.map fun setting => (setting.name, setting.parameter)) = .ok names) :
    load environment = if names.isEmpty then .ok (ofEnvironment environment)
      else .error (.invalidSettings names) := by
  rw [load, ofValue_rules, ok_bind, broken, ok_bind]
  split <;> rfl

/-- Loaded settings have the values of their own variables. -/
theorem value_of_load {environment : String → Option String} {settings : Settings}
    (loaded : load environment = .ok settings) (setting : Setting) :
    settings.value setting = valueUnder environment setting := by
  obtain ⟨names, broken, -⟩ := broken_ofEnvironment environment
  rw [load_eq_of_broken broken] at loaded
  split at loaded
  · obtain rfl := Except.ok.inj loaded
    exact value_ofEnvironment environment setting
  · contradiction

/-- What a text stands for is never null. -/
theorem valueOfText_ne_null (s : String) : valueOfText s ≠ .null := by
  unfold valueOfText
  extract_lets stripped word
  split_ifs
  · nofun
  · nofun
  · split <;> nofun

theorem valueUnder_ne_null (environment : String → Option String) (setting : Setting) :
    valueUnder environment setting ≠ .null := by
  rw [valueUnder]
  cases environment setting.variable with
  | none =>
    rw [Option.map_none, Option.getD_none]
    exact setting.default_ne_null
  | some s =>
    rw [Option.map_some, Option.getD_some]
    exact valueOfText_ne_null s

/-- Settings that the library can work with. -/
structure Usable (settings : Settings) : Prop where
  port : ∃ n, settings.value .webhookServicePort = .int n ∧ 1 ≤ n ∧ n ≤ 65535
  names : ∀ setting ∈ [Setting.parentPackageLabel, .webhookNamePrefix, .webhookCertificateKey,
    .fallbackNamespace], ∃ s, settings.value setting = .text s ∧ s ≠ ""
  timeout : (∃ n, settings.value .requestTimeout = .int n ∧ 0 ≤ n) ∨
    ∃ x, settings.value .requestTimeout = .float x ∧ x ≠ .nan ∧
      (Number.whole 0).le (.float x) = true
  level : ∃ s ∈ ["off", "fatal", "error", "warning", "info", "trace", "debug", "debug1", "debug2",
    "debug3", "debug4"], settings.value .logLevel = .text s
  switches : ∀ setting ∈ [Setting.logJson, .logThreadId], ∃ b, settings.value setting = .bool b

private theorem not_omits_of_mandatory {value : Value} (mandatory : setting ≠ .requestTimeout) :
    ¬ Parameter.Omits setting.ruleFields value := by
  rintro ⟨optional, -⟩
  cases setting <;> contradiction

/-- A setting that must be a text of at least one character is one. -/
theorem text_of_allows {value : Value}
    (typed : Fields.get? setting.ruleFields "type" = some (.text "str"))
    (least : Fields.get setting.ruleFields "min_len" = .int 1) (allowed : setting.Allows value)
    (mandatory : setting ≠ .requestTimeout) : ∃ s, value = .text s ∧ s ≠ "" := by
  obtain omitted | ⟨s, same, within⟩ := (Parameter.permits_str_iff typed).mp allowed
  · exact (not_omits_of_mandatory mandatory omitted).elim
  · have longer : (1 : Int) ≤ s.length :=
      of_decide_eq_true (within.1 (.whole 1) (by rw [least]; rfl))
    refine ⟨s, same, ?_⟩
    rintro rfl
    simp at longer

/-- Settings that obey their rules are usable, where a timeout is given. -/
theorem usable_of_allows {settings : Settings}
    (allowed : ∀ setting : Setting, setting.Allows (settings.value setting))
    (given : settings.value .requestTimeout ≠ .null) : settings.Usable := by
  refine ⟨?_, fun setting named => ?_, ?_, ?_, fun setting switch => ?_⟩
  · obtain omitted | ⟨n, same, within⟩ :=
      (Parameter.permits_int_iff rfl).mp (allowed .webhookServicePort)
    · exact (not_omits_of_mandatory (by decide) omitted).elim
    · have least : 1 ≤ n := of_decide_eq_true (within.1 (.whole 1) rfl)
      have most : n ≤ 65535 := of_decide_eq_true (within.2 (.whole 65535) rfl)
      exact ⟨n, same, least, most⟩
  · have texts := allowed setting
    simp only [List.mem_cons, List.not_mem_nil, or_false] at named
    obtain rfl | rfl | rfl | rfl := named <;> exact text_of_allows rfl rfl texts (by decide)
  · obtain ⟨-, null⟩ | ⟨n, same, within⟩ | ⟨x, same, within⟩ :=
      (Parameter.permits_number_iff rfl).mp (allowed .requestTimeout)
    · exact (given null).elim
    · exact .inl ⟨n, same, of_decide_eq_true (within.1 (.whole 0) rfl)⟩
    · have above := within.1 (.whole 0) rfl
      refine .inr ⟨x, same, ?_, above⟩
      rintro rfl
      contradiction
  · obtain omitted | ⟨kind, other, listed, equal⟩ :=
      (Parameter.permits_enum_iff rfl rfl).mp (allowed .logLevel)
    · exact (not_omits_of_mandatory (by decide) omitted).elim
    · obtain ⟨s, member, rfl⟩ := List.mem_map.mp listed
      refine ⟨s, member, ?_⟩
      obtain null | ⟨n, same⟩ | ⟨t, same⟩ := kind
      · simp [null, Value.same, Value.sameScalar, Value.number?] at equal
      · simp [same, Value.same, Value.sameScalar, Value.number?] at equal
      · simpa [same, Value.same, Value.sameScalar] using equal
  · have switched := allowed setting
    simp only [List.mem_cons, List.not_mem_nil, or_false] at switch
    obtain rfl | rfl := switch <;>
      exact ((Parameter.permits_bool_iff rfl).mp switched).resolve_left
        (not_omits_of_mandatory (by decide))

/-- Under every environment a setting has the value of its own variable, or its default. The
settings are loaded exactly if all rules allow these values, and are usable then; otherwise the
fault names, in the order of the rules, the settings whose own variables are to blame. -/
theorem loads_iff_allowed (environment : String → Option String) :
    Function.Injective Setting.variable ∧
    (∀ setting, (ofEnvironment environment).value setting = valueUnder environment setting) ∧
    match load environment with
    | .ok settings => settings = ofEnvironment environment ∧ settings.Usable ∧
        ∀ setting : Setting, setting.Allows (valueUnder environment setting)
    | .error fault => ∃ names, fault = .invalidSettings names ∧ names ≠ [] ∧
        names.Sublist (Setting.all.map Setting.name) ∧
        ∀ setting : Setting, setting.name ∈ names ↔ ∃ s,
          environment setting.variable = some s ∧ ¬ setting.Allows (valueOfText s) := by
  refine ⟨Setting.variable_injective, value_ofEnvironment environment, ?_⟩
  obtain ⟨names, broken, ordered, blamed⟩ := broken_ofEnvironment environment
  have loaded : load environment = if names.isEmpty then .ok (ofEnvironment environment)
      else .error (.invalidSettings names) := by
    rw [load, ofValue_rules, ok_bind, broken, ok_bind]
    split <;> rfl
  have obeys (setting : Setting) (unnamed : setting.name ∉ names) :
      setting.Allows (valueUnder environment setting) :=
    not_not.mp (mt (blamed setting).mpr unnamed)
  cases names with
  | nil =>
    rw [loaded]
    have allowed (setting : Setting) := obeys setting (by simp)
    refine ⟨rfl, usable_of_allows (fun setting => ?_) ?_, allowed⟩
    · rw [value_ofEnvironment]
      exact allowed setting
    · rw [value_ofEnvironment]
      exact valueUnder_ne_null environment .requestTimeout
  | cons first rest =>
    rw [loaded]
    -- A default obeys its rule, so the variable of a setting to blame is given.
    refine ⟨_, rfl, List.cons_ne_nil _ _, ordered, fun setting => ?_⟩
    rw [blamed, valueUnder]
    cases environment setting.variable with
    | none => simp [setting.allows_default]
    | some s => simp

end Settings

end ManifestOwnership
