import ManifestOwnership.Proofs.Number.Numeral
import ManifestOwnership.Proofs.Settings.Environment

/-! # Overriding a text

The text of a variable is typed before the rule of its setting is asked. A setting that must be a
text therefore takes every text except those of another type, which are the words for booleans
and the numerals: its rule refuses what they stand for.
-/

namespace ManifestOwnership

namespace Text

def Trimmed (s : List Char) : Prop :=
  (∀ c ∈ s.head?, isBlank c = false) ∧ ∀ c ∈ s.getLast?, isBlank c = false

/-- A text without any blanks is trimmed. -/
theorem trimmed_of_all {s : List Char} (shown : s.all (!isBlank ·) = true) : Trimmed s := by
  simp only [List.all_eq_true, Bool.not_eq_true'] at shown
  constructor
  · exact fun c first => shown c (List.mem_of_mem_head? first)
  · exact fun c last => shown c (List.mem_of_mem_getLast? last)

private theorem dropWhile_isBlank {s : List Char} (shown : ∀ c ∈ s.head?, isBlank c = false) :
    s.dropWhile isBlank = s := by
  cases s with
  | nil => rfl
  | cons c s => simp [shown c rfl]

theorem stripBlanks_of_trimmed {s : List Char} (trimmed : Trimmed s) : stripBlanks s = s := by
  have back : ∀ c ∈ s.reverse.head?, isBlank c = false := by
    rw [List.head?_reverse]
    exact trimmed.2
  rw [stripBlanks, dropWhile_isBlank trimmed.1, dropWhile_isBlank back, List.reverse_reverse]

end Text

variable {setting : Setting} {s t : String} {environment : String → Option String}

/-- The settings that name something, so that their texts are not empty. -/
def Setting.naming : List Setting :=
  [parentPackageLabel, webhookNamePrefix, webhookCertificateKey, fallbackNamespace]

/-- A setting that names something takes the texts with at least one character. -/
theorem Setting.allows_iff_of_naming {value : Value} (naming : setting ∈ Setting.naming) :
    setting.Allows value ↔ ∃ s, value = .text s ∧ s ≠ "" := by
  simp only [Setting.naming, List.mem_cons, List.not_mem_nil, or_false] at naming
  constructor
  · intro allowed
    obtain rfl | rfl | rfl | rfl := naming <;>
      exact Settings.text_of_allows rfl rfl allowed (by decide)
  · rintro ⟨s, rfl, given⟩
    have longer : (1 : Int) ≤ s.length := by
      have := String.length_eq_zero_iff.not.mpr given
      omega
    have within : Parameter.Within (.int 1) .null (.whole s.length) := by
      refine ⟨?_, ?_⟩
      · rintro limit ⟨⟩
        exact decide_eq_true longer
      · rintro limit ⟨⟩
    obtain rfl | rfl | rfl | rfl := naming <;>
      exact (Parameter.permits_str_iff rfl).mpr (.inr ⟨s, rfl, within⟩)

namespace Settings

/-- A text that stands for itself: neither a word for a boolean nor a numeral. -/
def Literal (s : String) : Prop :=
  Text.lowerCase s ∉ ["true", "false"] ∧ ¬ Numeral.Written s.toList

/-- What stands for a text is literal, and stands for itself. -/
theorem valueOfText_eq_text_iff (trimmed : Text.Trimmed s.toList) :
    valueOfText s = .text t ↔ Literal s ∧ s = t := by
  rw [valueOfText, Text.stripBlanks_of_trimmed trimmed, String.ofList_toList, Literal,
    ← Number.isSome_ofText?_iff]
  split_ifs with yes no
  · simp [yes]
  · simp [no]
  · cases Number.ofText? s.toList with
    | none => simp [yes, no]
    | some number => cases number <;> simp

private theorem load_eq_of_others
    (others : ∀ other ≠ setting, ∀ t, environment other.variable = some t →
      other.Allows (valueOfText t)) :
    (setting.Allows (valueUnder environment setting) →
      load environment = .ok (ofEnvironment environment)) ∧
    (¬ setting.Allows (valueUnder environment setting) →
      load environment = .error (.invalidSettings [setting.name])) := by
  obtain ⟨names, broken, ordered, blamed⟩ := broken_ofEnvironment environment
  have own : ∀ name ∈ names, name = setting.name := by
    intro name member
    obtain ⟨other, -, rfl⟩ := List.mem_map.mp (ordered.subset member)
    by_contra apart
    refine (blamed other).mp member ?_
    rw [valueUnder]
    cases read : environment other.variable with
    | none =>
      rw [Option.map_none, Option.getD_none]
      exact other.allows_default
    | some t =>
      rw [Option.map_some, Option.getD_some]
      exact others other (fun same => apart (congrArg Setting.name same)) t read
  rw [load_eq_of_broken broken]
  constructor
  · intro allowed
    have none : names = [] := by
      refine List.eq_nil_iff_forall_not_mem.mpr fun name member => ?_
      obtain rfl := own name member
      exact (blamed setting).mp member allowed
    rw [none, List.isEmpty_nil, if_pos rfl]
  · intro refused
    have distinct : names.Nodup := ordered.nodup (by decide)
    -- The names are distinct, and each of them is that of the setting.
    have single : names = [setting.name] := by
      have same := List.eq_replicate_of_mem own
      have given := List.length_pos_of_mem ((blamed setting).mpr refused)
      rw [same, List.nodup_replicate] at distinct
      rw [same, Nat.le_antisymm distinct given, List.replicate_one]
    rw [single, List.isEmpty_cons, if_neg Bool.false_ne_true]

/-- The environment in which only one setting has its variable set. -/
def single (setting : Setting) (s : String) (name : String) : Option String :=
  if name = setting.variable then some s else none

theorem single_self : single setting s setting.variable = some s :=
  if_pos rfl

theorem single_of_ne {other : Setting} (apart : other ≠ setting) :
    single setting s other.variable = none :=
  if_neg fun same => apart (Setting.variable_injective same)

/-- A setting that names something, its own variable given without blanks at its ends and the
variables of the others unset or allowed, takes exactly the literal texts, and takes them as they
are. Any other text is refused when it is loaded, with this setting as the only one to blame. -/
theorem loads_text_override (naming : setting ∈ Setting.naming)
    (given : environment setting.variable = some s) (nonempty : s ≠ "")
    (trimmed : Text.Trimmed s.toList)
    (others : ∀ other ≠ setting, ∀ t, environment other.variable = some t →
      other.Allows (valueOfText t)) :
    (Literal s → ∃ settings, load environment = .ok settings ∧
      settings.value setting = .text s) ∧
    (¬ Literal s → load environment = .error (.invalidSettings [setting.name])) := by
  have value : valueUnder environment setting = valueOfText s := by
    rw [valueUnder, given, Option.map_some, Option.getD_some]
  obtain ⟨loaded, refused⟩ := load_eq_of_others others
  rw [value, Setting.allows_iff_of_naming naming] at loaded refused
  constructor
  · intro literal
    have same := (valueOfText_eq_text_iff trimmed).mpr ⟨literal, rfl⟩
    exact ⟨_, loaded ⟨s, same, nonempty⟩, by rw [value_ofEnvironment, value, same]⟩
  · intro typed
    apply refused
    rintro ⟨t, same, -⟩
    exact typed ((valueOfText_eq_text_iff trimmed).mp same).1

/-- A namespace with two underscores between digits is taken, and one with a single underscore
there is refused. -/
theorem loads_text_override_grouped :
    (∃ settings, load (single .fallbackNamespace "1__0") = .ok settings ∧
      settings.value .fallbackNamespace = .text "1__0") ∧
    load (single .fallbackNamespace "1_0") = .error (.invalidSettings ["namespace"]) := by
  have others (s : String) : ∀ other ≠ Setting.fallbackNamespace, ∀ t,
      single .fallbackNamespace s other.variable = some t → other.Allows (valueOfText t) := by
    intro other apart t given
    rw [single_of_ne apart] at given
    contradiction
  have naming : Setting.fallbackNamespace ∈ Setting.naming := by decide
  constructor
  · have literal : Literal "1__0" := by
      rw [Literal, ← Number.isSome_ofText?_iff]
      decide
    exact (loads_text_override naming single_self (by decide) (Text.trimmed_of_all rfl)
      (others _)).1 literal
  · have digits : Numeral.Digits ['1', '_', '0'] := .group rfl (.last rfl)
    exact (loads_text_override naming single_self (by decide) (Text.trimmed_of_all rfl)
      (others _)).2 fun literal => literal.2 digits.written

/-- Not every text can be given: a namespace of digits only is read as a number. -/
theorem not_loads_every_text : ¬ ∀ setting ∈ Setting.naming, ∀ s, s ≠ "" →
    Text.Trimmed s.toList → ∃ settings, load (single setting s) = .ok settings ∧
      settings.value setting = .text s := by
  intro every
  have trimmed : Text.Trimmed "123".toList := Text.trimmed_of_all rfl
  obtain ⟨settings, loaded, kept⟩ := every .fallbackNamespace (by decide) "123" (by decide) trimmed
  rw [value_of_load loaded, valueUnder, single_self, Option.map_some, Option.getD_some] at kept
  have digits : Numeral.Digits ['1', '2', '3'] := .next rfl (.next rfl (.last rfl))
  exact ((valueOfText_eq_text_iff trimmed).mp kept).1.2 digits.written

end Settings

end ManifestOwnership
