import ManifestOwnership.Settings.Parameter
import ManifestOwnership.Proofs.Success

/-! # What a rule permits

`Permits` reads the fields of a rule as they are written and says which values obey it, one case for
each kind of value that a type takes. Where the bounds of a rule are null or numbers, the parameter
that is made of it gives a verdict on every value, and accepts the permitted ones.
-/

namespace ManifestOwnership

/-- A check has a verdict, and a favourable one exactly if something holds. -/
def Decides (check : Except Fault Bool) (holds : Prop) : Prop :=
  ∃ verdict, check = .ok verdict ∧ (verdict = true ↔ holds)

theorem decides_ok {verdict : Bool} {holds : Prop} :
    Decides (.ok verdict) holds ↔ (verdict = true ↔ holds) := by
  simp [Decides]

theorem Decides.congr {check : Except Fault Bool} {holds holds' : Prop}
    (decides : Decides check holds) (same : holds ↔ holds') : Decides check holds' := by
  rwa [← same]

namespace Parameter

def types : List String := ["number", "int", "str", "bool", "enum"]

def IsRule (fields : Fields) : Prop :=
  ∃ type ∈ types, Fields.get? fields "type" = some (.text type)

/-- Every bound of a rule is null or a number. A bound that is absent is null. -/
def Bounded (rule : Fields) : Prop :=
  ∀ name ∈ ["min", "max", "min_len", "max_len"],
    Fields.get rule name = .null ∨ (Fields.get rule name).number?.isSome = true

/-- A number lies within inclusive bounds, as far as they are numbers. -/
def Within (least most : Value) (x : Number) : Prop :=
  (∀ limit, least.number? = some limit → limit.le x = true) ∧
    ∀ limit, most.number? = some limit → x.le limit = true

/-- The values that a rule permits. -/
inductive Permits (rule : Fields) : Value → Prop where
  /-- The rule is optional and nothing is given. -/
  | absent (optional : (Fields.get rule "optional").truthy = true) : Permits rule .null
  /-- An integer within the bounds. -/
  | whole {type : String} {n : Int} (typed : Fields.get? rule "type" = some (.text type))
      (numeric : type = "number" ∨ type = "int")
      (within : Within (Fields.get rule "min") (Fields.get rule "max") (.whole n)) :
      Permits rule (.int n)
  /-- A binary64 number within the bounds, for a rule that takes any number. -/
  | float {x : Binary64} (typed : Fields.get? rule "type" = some (.text "number"))
      (within : Within (Fields.get rule "min") (Fields.get rule "max") (.float x)) :
      Permits rule (.float x)
  /-- A text whose length lies within the bounds. -/
  | text {s : String} (typed : Fields.get? rule "type" = some (.text "str"))
      (within : Within (Fields.get rule "min_len") (Fields.get rule "max_len")
        (.whole s.length)) : Permits rule (.text s)
  | switch {b : Bool} (typed : Fields.get? rule "type" = some (.text "bool")) :
      Permits rule (.bool b)
  /-- A text, an integer or null that equals one of the values to choose from. -/
  | choice {value : Value} {values : List Value}
      (typed : Fields.get? rule "type" = some (.text "enum"))
      (kind : value = .null ∨ (∃ n, value = .int n) ∨ ∃ s, value = .text s)
      (offered : Fields.get? rule "values" = some (.list values))
      (listed : ∃ other ∈ values, value.same other = true) : Permits rule value

section Permits

variable {rule : Fields} {value : Value}

/-- A rule is optional and nothing is given. -/
def Omits (rule : Fields) (value : Value) : Prop :=
  (Fields.get rule "optional").truthy = true ∧ value = .null

theorem permits_number_iff (typed : Fields.get? rule "type" = some (.text "number")) :
    Permits rule value ↔ Omits rule value ∨
      (∃ n, value = .int n ∧ Within (Fields.get rule "min") (Fields.get rule "max") (.whole n)) ∨
        ∃ x, value = .float x ∧
          Within (Fields.get rule "min") (Fields.get rule "max") (.float x) := by
  constructor
  · intro permits
    cases permits <;> simp_all [Omits]
  · rintro (⟨optional, rfl⟩ | ⟨n, rfl, within⟩ | ⟨x, rfl, within⟩)
    · exact .absent optional
    · exact .whole typed (.inl rfl) within
    · exact .float typed within

theorem permits_int_iff (typed : Fields.get? rule "type" = some (.text "int")) :
    Permits rule value ↔ Omits rule value ∨
      ∃ n, value = .int n ∧
        Within (Fields.get rule "min") (Fields.get rule "max") (.whole n) := by
  constructor
  · intro permits
    cases permits <;> simp_all [Omits]
  · rintro (⟨optional, rfl⟩ | ⟨n, rfl, within⟩)
    · exact .absent optional
    · exact .whole typed (.inr rfl) within

theorem permits_str_iff (typed : Fields.get? rule "type" = some (.text "str")) :
    Permits rule value ↔ Omits rule value ∨
      ∃ s, value = .text s ∧ Within (Fields.get rule "min_len") (Fields.get rule "max_len")
        (.whole s.length) := by
  constructor
  · intro permits
    cases permits <;> simp_all [Omits]
  · rintro (⟨optional, rfl⟩ | ⟨s, rfl, within⟩)
    · exact .absent optional
    · exact .text typed within

theorem permits_bool_iff (typed : Fields.get? rule "type" = some (.text "bool")) :
    Permits rule value ↔ Omits rule value ∨ ∃ b, value = .bool b := by
  constructor
  · intro permits
    cases permits <;> simp_all [Omits]
  · rintro (⟨optional, rfl⟩ | ⟨b, rfl⟩)
    · exact .absent optional
    · exact .switch typed

theorem permits_enum_iff {values : List Value}
    (typed : Fields.get? rule "type" = some (.text "enum"))
    (offered : Fields.get? rule "values" = some (.list values)) :
    Permits rule value ↔ Omits rule value ∨
      (value = .null ∨ (∃ n, value = .int n) ∨ ∃ s, value = .text s) ∧
        ∃ other ∈ values, value.same other = true := by
  constructor
  · intro permits
    cases permits <;> simp_all [Omits]
  · rintro (⟨optional, rfl⟩ | ⟨kind, listed⟩)
    · exact .absent optional
    · exact .choice typed kind offered listed

end Permits

variable {fields : Fields} {parameter : Parameter}

private theorem bounds?_eq_none_iff (type : String) : bounds? type = none ↔ type ∉ types := by
  unfold bounds?
  split <;> simp_all [types]

private theorem demandOf_filter (type : String) :
    demandOf type (fields.filter fun (name, _) => name != "type") = demandOf type fields := by
  simp [demandOf, choices, Fields.get, Fields.get?_filter_of_ne]

/-- Every field of a rule is its type, `optional` or one of some arguments. -/
def Takes (names : List String) (rule : Fields) : Prop :=
  ∀ field ∈ rule, field.1 = "type" ∨ field.1 = "optional" ∨ field.1 ∈ names

private theorem takes_iff {names : List String} : Takes names fields ↔
    ((fields.filter fun (name, _) => name != "type").all fun (name, _) =>
      name == "optional" || names.contains name) = true := by
  simp [Takes, or_iff_not_imp_left]

theorem choices_eq_ok_iff {values : List Value} : choices fields = .ok values ↔
    ∃ first rest, values = first :: rest ∧
      Fields.get? fields "values" = some (.list (first :: rest)) := by
  unfold choices
  split
  · next absent => simp [absent]
  · next first rest offered => simp [offered, eq_comm]
  · next value unlisted offered =>
    simp only [reduceCtorEq, offered, Option.some.injEq, false_iff]
    rintro ⟨first, rest, -, rfl⟩
    exact unlisted first rest rfl

/-- A parameter is made of fields that a known type takes, and demands what the fields say. -/
theorem ofFields?_eq_ok_some_iff : ofFields? fields = .ok (some parameter) ↔
    ∃ type names, Fields.get? fields "type" = some (.text type) ∧ bounds? type = some names ∧
      Takes names fields ∧ parameter.optional = (Fields.get fields "optional").truthy ∧
      demandOf type fields = .ok parameter.demand := by
  constructor
  · intro parsed
    unfold ofFields? at parsed
    split at parsed
    · contradiction
    · next type typed =>
      split at parsed
      · simp at parsed
      · next names known =>
        dsimp only at parsed
        split_ifs at parsed with unchosen taken
        obtain ⟨demand, made, rfl⟩ : ∃ demand, demandOf type fields = .ok demand ∧ _ := by
          simpa [demandOf_filter] using parsed
        exact ⟨type, names, typed, known, takes_iff.mpr taken,
          by simp [Fields.get, Fields.get?_filter_of_ne], made⟩
    · simp at parsed
  · rintro ⟨type, names, typed, known, taken, optional, made⟩
    -- That a choice has values is checked twice, before its other arguments and after them.
    have chosen : (type == "enum" && (Fields.get? (fields.filter fun (name, _) => name != "type")
        "values").isNone) = false := by
      rw [Fields.get?_filter_of_ne _ (by decide)]
      by_cases choice : type = "enum"
      · subst choice
        obtain ⟨values, chosen, -⟩ := map_eq_ok_iff.mp made
        obtain ⟨first, rest, -, offered⟩ := choices_eq_ok_iff.mp chosen
        simp [offered]
      · simp [choice]
    have optional' : (Fields.get (fields.filter fun (name, _) => name != "type")
        "optional").truthy = parameter.optional := by
      rw [optional, Fields.get, Fields.get, Fields.get?_filter_of_ne _ (by decide)]
    simp only [ofFields?, typed, known, chosen, takes_iff.mp taken, demandOf_filter, made]
    simp [Except.map, optional']

/-- A parameter is made of fields of a known type, and demands what the fields say. -/
theorem exists_demand_of_ofFields? (parsed : ofFields? fields = .ok (some parameter)) :
    ∃ type ∈ types, Fields.get? fields "type" = some (.text type) ∧
      parameter.optional = (Fields.get fields "optional").truthy ∧
      demandOf type fields = .ok parameter.demand := by
  obtain ⟨type, names, typed, known, -, optional, made⟩ := ofFields?_eq_ok_some_iff.mp parsed
  refine ⟨type, ?_, typed, optional, made⟩
  by_contra unknown
  simp [(bounds?_eq_none_iff type).mpr unknown] at known

/-- Fields of which no parameter is made are no rule. -/
theorem not_isRule_of_ofFields? (parsed : ofFields? fields = .ok none) : ¬ IsRule fields := by
  rintro ⟨type, known, typed⟩
  cases bounds : bounds? type with
  | none => exact (bounds?_eq_none_iff type).mp bounds known
  | some names =>
    simp only [ofFields?, typed, bounds] at parsed
    split_ifs at parsed
    simp at parsed

/-- Fields with a type of which making a parameter fails are a rule. -/
theorem isRule_of_ofFields? {fault : Fault} (given : (Fields.get? fields "type").isSome = true)
    (failure : ofFields? fields = .error fault) : IsRule fields := by
  unfold ofFields? at failure
  split at failure
  · next untyped => simp [untyped] at given
  · next type typed =>
    refine ⟨type, ?_, typed⟩
    by_contra unknown
    simp [(bounds?_eq_none_iff type).mpr unknown] at failure
  · contradiction

private theorem decides_allows (compare : Number → Number → Bool) {bound : Value} (x : Number)
    (bounding : bound = .null ∨ bound.number?.isSome = true) :
    Decides (allows compare bound x)
      (∀ limit, bound.number? = some limit → compare limit x = true) := by
  obtain rfl | some := bounding
  · simp [allows, Value.isNull, Value.number?, decides_ok]
  · obtain ⟨limit, numeric⟩ := Option.isSome_iff_exists.mp some
    have present : bound.isNull = false := by
      cases bound <;> simp_all [Value.isNull, Value.number?]
    simp [allows, present, numeric, decides_ok]

private theorem decides_within {least most : Value} {x : Number}
    (lower : least = .null ∨ least.number?.isSome = true)
    (upper : most = .null ∨ most.number?.isSome = true) :
    Decides (within least most x) (Within least most x) := by
  obtain ⟨above, compared, holds⟩ := decides_allows Number.le x lower
  rw [within, compared, ok_bind]
  cases above with
  | false =>
    refine decides_ok.mpr ⟨nofun, fun both => ?_⟩
    exact holds.mpr both.1
  | true =>
    obtain ⟨below, compared, holds'⟩ :=
      decides_allows (fun limit x => x.le limit) x upper
    exact ⟨below, compared, holds'.trans (and_iff_right (holds.mp rfl)).symm⟩

private theorem decides_demand {type : String} {demand : Demand} {value : Value}
    (known : type ∈ types) (typed : Fields.get? fields "type" = some (.text type))
    (made : demandOf type fields = .ok demand) (bounded : Bounded fields)
    (demanded : ¬ Omits fields value) :
    Decides (Demand.accepts demand value) (Permits fields value) := by
  have numbers (x : Number) : Decides (within (Fields.get fields "min") (Fields.get fields "max") x)
      (Within (Fields.get fields "min") (Fields.get fields "max") x) :=
    decides_within (bounded _ (by simp)) (bounded _ (by simp))
  have lengths (x : Number) :
      Decides (within (Fields.get fields "min_len") (Fields.get fields "max_len") x)
        (Within (Fields.get fields "min_len") (Fields.get fields "max_len") x) :=
    decides_within (bounded _ (by simp)) (bounded _ (by simp))
  simp only [types, List.mem_cons, List.not_mem_nil, or_false] at known
  obtain rfl | rfl | rfl | rfl | rfl := known
  · obtain rfl := Except.ok.inj made
    rw [permits_number_iff typed, or_iff_right demanded]
    cases value with
    | int n => exact (numbers (.whole n)).congr (by simp)
    | float x => exact (numbers (.float x)).congr (by simp)
    | _ => exact decides_ok.mpr (by simp)
  · obtain rfl := Except.ok.inj made
    rw [permits_int_iff typed, or_iff_right demanded]
    cases value with
    | int n => exact (numbers (.whole n)).congr (by simp)
    | _ => exact decides_ok.mpr (by simp)
  · obtain rfl := Except.ok.inj made
    rw [permits_str_iff typed, or_iff_right demanded]
    cases value with
    | text s => exact (lengths (.whole s.length)).congr (by simp)
    | _ => exact decides_ok.mpr (by simp)
  · obtain rfl := Except.ok.inj made
    rw [permits_bool_iff typed, or_iff_right demanded]
    cases value <;> exact decides_ok.mpr (by simp)
  · obtain ⟨values, chosen, rfl⟩ := map_eq_ok_iff.mp made
    obtain ⟨first, rest, rfl, offered⟩ := choices_eq_ok_iff.mp chosen
    rw [permits_enum_iff typed offered, or_iff_right demanded]
    cases value <;> exact decides_ok.mpr (by simp)

/-- The parameter of a rule has a verdict on each value, and accepts what the rule permits. -/
theorem decides_accepts (parsed : ofFields? fields = .ok (some parameter))
    (bounded : Bounded fields) (value : Value) :
    Decides (parameter.accepts value) (Permits fields value) := by
  obtain ⟨type, known, typed, optional, made⟩ := exists_demand_of_ofFields? parsed
  have null_iff : value.isNull = true ↔ value = .null := by cases value <;> simp [Value.isNull]
  unfold accepts
  split
  · next given =>
    rw [Bool.and_eq_true, optional, null_iff] at given
    obtain ⟨given, rfl⟩ := given
    exact decides_ok.mpr ⟨fun _ => .absent given, fun _ => rfl⟩
  · next demanded =>
    rw [Bool.and_eq_true, optional, null_iff] at demanded
    exact decides_demand known typed made bounded demanded

end Parameter

end ManifestOwnership
