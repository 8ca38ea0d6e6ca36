import ManifestOwnership.Proofs.Settings.Rules
import Mathlib.Data.List.Nodup

/-! # What reading a tree of rules comes to

`Builds` says, type by type, which parameter the arguments of a rule describe; a rule for which it
holds of none has arguments that its type does not take. Reading a tree fails exactly if the tree
holds such a rule at any depth. Otherwise nothing is dropped and nothing merged: two rules never
share a written path, and each is listed once, with the parameter of its own arguments.
-/

namespace ManifestOwnership

namespace Parameter

/-- The parameter that the arguments of a rule describe. A bound that is absent is null, and a
choice must have values to choose from. -/
inductive Builds (rule : Fields) : Parameter → Prop where
  | number (typed : Fields.get? rule "type" = some (.text "number"))
      (taken : Takes ["min", "max"] rule) : Builds rule
        ⟨(Fields.get rule "optional").truthy,
          .number (Fields.get rule "min") (Fields.get rule "max")⟩
  | whole (typed : Fields.get? rule "type" = some (.text "int"))
      (taken : Takes ["min", "max"] rule) : Builds rule
        ⟨(Fields.get rule "optional").truthy,
          .whole (Fields.get rule "min") (Fields.get rule "max")⟩
  | text (typed : Fields.get? rule "type" = some (.text "str"))
      (taken : Takes ["min_len", "max_len"] rule) : Builds rule
        ⟨(Fields.get rule "optional").truthy,
          .text (Fields.get rule "min_len") (Fields.get rule "max_len")⟩
  | switch (typed : Fields.get? rule "type" = some (.text "bool")) (taken : Takes [] rule) :
      Builds rule ⟨(Fields.get rule "optional").truthy, .switch⟩
  | choice {first : Value} {rest : List Value}
      (typed : Fields.get? rule "type" = some (.text "enum")) (taken : Takes ["values"] rule)
      (offered : Fields.get? rule "values" = some (.list (first :: rest))) :
      Builds rule ⟨(Fields.get rule "optional").truthy, .choice (first :: rest)⟩

/-- A parameter is made of exactly the arguments that describe it. -/
theorem ofFields?_eq_ok_some_iff_builds {rule : Fields} {parameter : Parameter} :
    ofFields? rule = .ok (some parameter) ↔ Builds rule parameter := by
  rw [ofFields?_eq_ok_some_iff]
  constructor
  · rintro ⟨type, names, typed, known, taken, optional, made⟩
    obtain ⟨given, demand⟩ := parameter
    obtain rfl : given = _ := optional
    unfold bounds? at known
    split at known <;> cases known
    · obtain rfl := Except.ok.inj made
      exact .number typed taken
    · obtain rfl := Except.ok.inj made
      exact .whole typed taken
    · obtain rfl := Except.ok.inj made
      exact .text typed taken
    · obtain rfl := Except.ok.inj made
      exact .switch typed taken
    · obtain ⟨values, chosen, rfl⟩ := map_eq_ok_iff.mp made
      obtain ⟨first, rest, rfl, offered⟩ := choices_eq_ok_iff.mp chosen
      exact .choice typed taken offered
  · intro builds
    cases builds with
    | number typed taken => exact ⟨_, _, typed, rfl, taken, rfl, rfl⟩
    | whole typed taken => exact ⟨_, _, typed, rfl, taken, rfl, rfl⟩
    | text typed taken => exact ⟨_, _, typed, rfl, taken, rfl, rfl⟩
    | switch typed taken => exact ⟨_, _, typed, rfl, taken, rfl, rfl⟩
    | choice typed taken offered =>
      refine ⟨_, _, typed, rfl, taken, rfl, map_eq_ok_iff.mpr ⟨_, ?_, rfl⟩⟩
      exact choices_eq_ok_iff.mpr ⟨_, _, rfl, offered⟩

end Parameter

namespace Rules

open Parameter (IsRule Builds ofFields? ofFields?_eq_ok_some_iff_builds)

variable {names : List String} {tree fields rule rule' : Fields} {value : Value}

/-- Where an object is a group, it bears the rules that its fields hold. -/
theorem RuleAt.bears (ruled : RuleAt fields names rule) (group : ¬ IsRule fields) :
    Bears (.object fields) names rule := by
  obtain ⟨⟨name, value⟩, member, below, bears, rfl⟩ := ruled
  exact .member group member bears

-- The induction follows the two functions that read a tree, one over values and one over fields.
mutual

/-- Reading a value fails only at a rule whose arguments describe no parameter. -/
theorem exists_unbuilt_of_readAt (value : Value) {trail : List String} {fault : Fault}
    (failure : readAt trail value = .error fault) :
    ∃ names rule, Bears value names rule ∧ ∀ parameter, ¬ Builds rule parameter := by
  match value with
  | .object fields =>
    rw [readAt] at failure
    split at failure
    · next typed =>
      obtain failed | ⟨found, parsed, failure⟩ := bind_eq_error_iff.mp failure
      · refine ⟨[], fields, .rule (Parameter.isRule_of_ofFields? typed failed), ?_⟩
        intro parameter builds
        simp [ofFields?_eq_ok_some_iff_builds.mpr builds] at failed
      · cases found with
        | some parameter => contradiction
        | none =>
          have group := Parameter.not_isRule_of_ofFields? parsed
          obtain ⟨names, rule, ruled, unbuilt⟩ := exists_unbuilt_of_read fields failure
          exact ⟨names, rule, ruled.bears group, unbuilt⟩
    · next untyped =>
      have group : ¬ IsRule fields := by
        rintro ⟨type, -, typed⟩
        exact untyped (by simp [typed])
      obtain ⟨names, rule, ruled, unbuilt⟩ := exists_unbuilt_of_read fields failure
      exact ⟨names, rule, ruled.bears group, unbuilt⟩
  | .null => contradiction
  | .bool _ => contradiction
  | .int _ => contradiction
  | .float _ => contradiction
  | .text _ => contradiction
  | .list _ => contradiction

/-- Reading fields fails only at a rule whose arguments describe no parameter. -/
theorem exists_unbuilt_of_read (fields : List (String × Value)) {trail : List String}
    {fault : Fault} (failure : read trail fields = .error fault) :
    ∃ names rule, RuleAt fields names rule ∧ ∀ parameter, ¬ Builds rule parameter := by
  match fields with
  | [] => contradiction
  | (name, value) :: rest =>
    rw [read] at failure
    obtain failed | ⟨here, -, failure⟩ := bind_eq_error_iff.mp failure
    · obtain ⟨below, rule, bears, unbuilt⟩ := exists_unbuilt_of_readAt value failed
      exact ⟨name :: below, rule, ⟨_, List.mem_cons_self, below, bears, rfl⟩, unbuilt⟩
    · obtain failed | ⟨others, -, failure⟩ := bind_eq_error_iff.mp failure
      · obtain ⟨names, rule, ⟨field, member, ruled⟩, unbuilt⟩ := exists_unbuilt_of_read rest failed
        exact ⟨names, rule, ⟨field, List.mem_cons_of_mem _ member, ruled⟩, unbuilt⟩
      · contradiction

end

/-- In a tidy value, names lead to one rule at most. -/
theorem Bears.unique (bears : Bears value names rule) (bears' : Bears value names rule')
    (tidy : Tidy value) : rule = rule' := by
  induction bears with
  | rule own =>
    cases bears' with
    | rule => rfl
  | member group member below ih =>
    cases bears' with
    | member _ member' below' =>
      obtain ⟨distinct, -, inner⟩ := tidy_object_iff.mp tidy
      obtain ⟨-, rfl⟩ := Prod.mk.inj (List.inj_on_of_nodup_map distinct member member' rfl)
      exact ih below' (inner _ member)

/-- In a tidy tree, names lead to one rule at most. -/
theorem RuleAt.unique (ruled : RuleAt tree names rule) (ruled' : RuleAt tree names rule')
    (distinct : (tree.map Prod.fst).Nodup) (inner : ∀ field ∈ tree, Tidy field.2) :
    rule = rule' := by
  obtain ⟨field, member, below, bears, rfl⟩ := ruled
  obtain ⟨field', member', below', bears', same⟩ := ruled'
  obtain ⟨named, rfl⟩ := List.cons.inj same
  obtain rfl := List.inj_on_of_nodup_map distinct member member' named
  exact bears.unique bears' (inner _ member)

/-- Reading a tidy tree fails exactly if the arguments of a rule in it describe no parameter.
Otherwise it lists, each path once, the written paths of all rules with the parameters that their
own arguments describe. Different rules have different written paths. -/
theorem reads_every_rule (tidy : Tidy (.object tree)) :
    ((∃ fault, ofValue (.object tree) = .error fault) ↔
      ∃ names rule, RuleAt tree names rule ∧ ∀ parameter, ¬ Builds rule parameter) ∧
    (∀ rules, ofValue (.object tree) = .ok rules →
      (rules.map Prod.fst).Nodup ∧
      (∀ path, path ∈ rules.map Prod.fst ↔
        ∃ names rule, RuleAt tree names rule ∧ path = Path.join names) ∧
      ∀ path parameter, (path, parameter) ∈ rules ↔
        ∃ names rule, RuleAt tree names rule ∧ path = Path.join names ∧ Builds rule parameter) ∧
    ∀ names rule names' rule', RuleAt tree names rule → RuleAt tree names' rule' →
      Path.join names = Path.join names' → names = names' ∧ rule = rule' := by
  obtain ⟨distinct, clear, inner⟩ := tidy_object_iff.mp tidy
  have lists {rules : Rules} (success : ofValue (.object tree) = .ok rules) :
      Lists [] (RuleAt tree) rules := lists_of_read tree distinct clear inner (by simp) success
  refine ⟨⟨?_, ?_⟩, fun rules success => ⟨(lists success).distinct, ?_, ?_⟩, ?_⟩
  · rintro ⟨fault, failure⟩
    exact exists_unbuilt_of_read tree failure
  · rintro ⟨names, rule, ruled, unbuilt⟩
    cases read : ofValue (.object tree) with
    | error fault => exact ⟨fault, rfl⟩
    | ok rules =>
      obtain ⟨parameter, parsed⟩ := (lists read).parsed names rule ruled
      exact (unbuilt parameter (ofFields?_eq_ok_some_iff_builds.mp parsed)).elim
  · intro path
    rw [List.mem_map]
    constructor
    · rintro ⟨⟨path, parameter⟩, member, rfl⟩
      obtain ⟨names, rule, ruled, -, same⟩ := ((lists success).mem_iff _ _).mp member
      exact ⟨names, rule, ruled, same⟩
    · rintro ⟨names, rule, ruled, rfl⟩
      obtain ⟨parameter, parsed⟩ := (lists success).parsed names rule ruled
      exact ⟨_, ((lists success).mem_iff _ parameter).mpr ⟨names, rule, ruled, parsed, rfl⟩, rfl⟩
  · intro path parameter
    simp only [(lists success).mem_iff, ofFields?_eq_ok_some_iff_builds, List.nil_append,
      and_comm (a := Builds _ _)]
  · intro names rule names' rule' ruled ruled' same
    obtain rfl := (Path.join_inj (ruled.dotless clear inner) (ruled'.dotless clear inner)
      ruled.ne_nil ruled'.ne_nil).mp same
    exact ⟨rfl, ruled.unique ruled' distinct inner⟩

/-- A rule for integers with one more argument, below a group that is itself called `type`. -/
def storeRules (argument : String) : Fields :=
  [("store", .object [("type", .object
    [("timeout", .object [("type", .text "int"), (argument, .int 0)])])])]

/-- An integer takes a least value under one name only. -/
theorem reads_every_rule_store :
    Tidy (.object (storeRules "min")) ∧ Tidy (.object (storeRules "least")) ∧
    (∃ rules, ofValue (.object (storeRules "min")) = .ok rules ∧
      ∃ names rule, RuleAt (storeRules "min") names rule ∧
        "store.type.timeout" = Path.join names) ∧
    ∃ names rule, RuleAt (storeRules "least") names rule ∧
      ∀ parameter, ¬ Builds rule parameter := by
  have tidy (argument : String) (other : "type" ≠ argument) (dotless : Path.Dotless argument) :
      Tidy (.object (storeRules argument)) := by
    refine .object (by simp [storeRules]) (by simp [storeRules, Path.Dotless]) ?_
    refine List.forall_mem_singleton.mpr (.object (by simp) (by simp [Path.Dotless]) ?_)
    refine List.forall_mem_singleton.mpr (.object (by simp) (by simp [Path.Dotless]) ?_)
    refine List.forall_mem_singleton.mpr (.object (by simpa using other) ?_ ?_)
    · simpa [Path.Dotless] using dotless
    · exact List.forall_mem_cons.mpr ⟨.plain rfl, List.forall_mem_singleton.mpr (.plain rfl)⟩
  have taken := tidy "min" (by decide) (by simp [Path.Dotless])
  have refused := tidy "least" (by decide) (by simp [Path.Dotless])
  refine ⟨taken, refused, ⟨_, rfl, ?_⟩, ?_⟩
  · exact (((reads_every_rule taken).2.1 _ rfl).2.1 "store.type.timeout").mp
      (List.mem_singleton.mpr rfl)
  · exact (reads_every_rule refused).1.mp ⟨_, rfl⟩

end Rules

end ManifestOwnership
