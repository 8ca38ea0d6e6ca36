import ManifestOwnership.Settings.Rules
import ManifestOwnership.Proofs.Settings.Parameter
import ManifestOwnership.Proofs.Value.Dotted

/-! # The rules of a tree and what breaks them

`RuleAt` says where a tree of rules holds which rule. Reading a tidy tree lists a parameter for each
of these places under its written path and for no other; checking a configuration then finds the
value that each path leads to and names the rules that do not permit theirs.
-/

namespace ManifestOwnership

namespace Rules

open Parameter (IsRule Permits Bounded ofFields?)

/-- A value is a rule, or a group with a member that leads to one. -/
inductive Bears : Value → List String → Fields → Prop where
  | rule {fields : Fields} (own : IsRule fields) : Bears (.object fields) [] fields
  | member {fields rule : Fields} {name : String} {value : Value} {names : List String}
      (group : ¬ IsRule fields) (member : (name, value) ∈ fields)
      (below : Bears value names rule) : Bears (.object fields) (name :: names) rule

/-- A tree holds a rule under some names. The tree itself is no rule, whatever fields it has. -/
def RuleAt (tree : Fields) (names : List String) (rule : Fields) : Prop :=
  ∃ field ∈ tree, ∃ below, Bears field.2 below rule ∧ names = field.1 :: below

/-- On every level of a value, the names of an object are distinct and have no points. -/
inductive Tidy : Value → Prop where
  | plain {value : Value} (flat : value.isObject = false) : Tidy value
  | object {fields : Fields} (distinct : (fields.map Prod.fst).Nodup)
      (dotless : ∀ field ∈ fields, Path.Dotless field.1)
      (inner : ∀ field ∈ fields, Tidy field.2) : Tidy (.object fields)

theorem tidy_object_iff {fields : Fields} : Tidy (.object fields) ↔
    (fields.map Prod.fst).Nodup ∧ (∀ field ∈ fields, Path.Dotless field.1) ∧
      ∀ field ∈ fields, Tidy field.2 := by
  constructor
  · intro tidy
    cases tidy with
    | plain flat => contradiction
    | object distinct dotless inner => exact ⟨distinct, dotless, inner⟩
  · rintro ⟨distinct, dotless, inner⟩
    exact .object distinct dotless inner

/-- Rules list the parameters of all rules that stand below `trail`, each path once. -/
structure Lists (trail : List String) (ruled : List String → Fields → Prop) (rules : Rules) :
    Prop where
  distinct : (rules.map Prod.fst).Nodup
  parsed : ∀ names rule, ruled names rule → ∃ parameter, ofFields? rule = .ok (some parameter)
  mem_iff : ∀ path parameter, (path, parameter) ∈ rules ↔ ∃ names rule, ruled names rule ∧
    ofFields? rule = .ok (some parameter) ∧ path = Path.join (trail ++ names)

variable {trail names : List String} {tree fields rule : Fields} {rules : Rules} {value : Value}

private theorem bears_object_iff_of_isRule (own : IsRule fields) :
    Bears (.object fields) names rule ↔ names = [] ∧ rule = fields := by
  constructor
  · intro bears
    cases bears with
    | rule => exact ⟨rfl, rfl⟩
    | member group => exact (group own).elim
  · rintro ⟨rfl, rfl⟩
    exact .rule own

private theorem bears_object_iff_of_not_isRule (group : ¬ IsRule fields) :
    Bears (.object fields) names rule ↔ RuleAt fields names rule := by
  constructor
  · intro bears
    cases bears with
    | rule own => exact (group own).elim
    | member _ member below => exact ⟨_, member, _, below, rfl⟩
  · rintro ⟨⟨name, value⟩, member, inner, below, rfl⟩
    exact .member group member below

private theorem ruleAt_cons_iff {field : String × Value} {rest : Fields} :
    RuleAt (field :: rest) names rule ↔
      (∃ below, Bears field.2 below rule ∧ names = field.1 :: below) ∨ RuleAt rest names rule := by
  simp [RuleAt]

/-- On the way to a rule of a tidy value, no name has points. -/
theorem Bears.dotless (bears : Bears value names rule) (tidy : Tidy value) :
    ∀ name ∈ names, Path.Dotless name := by
  induction bears with
  | rule own => simp
  | member group member below ih =>
    obtain ⟨-, dotless, inner⟩ := tidy_object_iff.mp tidy
    exact List.forall_mem_cons.mpr ⟨dotless _ member, ih (inner _ member)⟩

private theorem readAt_object_cases (success : readAt trail (.object fields) = .ok rules) :
    (IsRule fields ∧ ∃ parameter, ofFields? fields = .ok (some parameter) ∧
        rules = [(Path.join trail, parameter)]) ∨
      (¬ IsRule fields ∧ read trail fields = .ok rules) := by
  rw [readAt] at success
  split at success
  · obtain ⟨found, parsed, listed⟩ := bind_eq_ok_iff.mp success
    cases found with
    | some parameter =>
      obtain ⟨type, known, typed, -⟩ := Parameter.exists_demand_of_ofFields? parsed
      exact .inl ⟨⟨type, known, typed⟩, parameter, parsed, (Except.ok.inj listed).symm⟩
    | none => exact .inr ⟨Parameter.not_isRule_of_ofFields? parsed, listed⟩
  · next untyped =>
    refine .inr ⟨?_, success⟩
    rintro ⟨type, -, typed⟩
    exact untyped (by simp [typed])

private theorem set_eq_append {entry : String × Parameter}
    (fresh : entry.1 ∉ rules.map Prod.fst) : set rules entry = rules ++ [entry] := by
  induction rules with
  | nil => rfl
  | cons first rest ih =>
    simp only [List.map_cons, List.mem_cons, not_or] at fresh
    simp [set, Ne.symm fresh.1, ih fresh.2]

private theorem merge_eq_append {first second : Rules}
    (distinct : ((first ++ second).map Prod.fst).Nodup) : merge first second = first ++ second := by
  induction second generalizing first with
  | nil => simp [merge]
  | cons entry rest ih =>
    have fresh : entry.1 ∉ first.map Prod.fst := by
      rw [List.map_append, List.nodup_append] at distinct
      exact fun member => distinct.2.2 _ member _ (by simp) rfl
    have others : merge (first ++ [entry]) rest = first ++ [entry] ++ rest :=
      ih (by simpa using distinct)
    rw [merge, List.foldl_cons, set_eq_append fresh]
    simpa [merge] using others

theorem RuleAt.ne_nil (ruled : RuleAt tree names rule) : names ≠ [] := by
  obtain ⟨field, -, below, -, rfl⟩ := ruled
  exact List.cons_ne_nil _ _

/-- On the way to a rule of a tidy tree, no name has points. -/
theorem RuleAt.dotless (ruled : RuleAt tree names rule)
    (clear : ∀ field ∈ tree, Path.Dotless field.1) (inner : ∀ field ∈ tree, Tidy field.2) :
    ∀ name ∈ names, Path.Dotless name := by
  obtain ⟨field, member, below, bears, rfl⟩ := ruled
  exact List.forall_mem_cons.mpr ⟨clear field member, bears.dotless (inner field member)⟩

private theorem Lists.merge {name : String} {rest : Fields} {first second : Rules}
    (fresh : name ∉ rest.map Prod.fst) (dotless : ∀ part ∈ trail, Path.Dotless part)
    (clear : ∀ field ∈ (name, value) :: rest, Path.Dotless field.1)
    (inner : ∀ field ∈ (name, value) :: rest, Tidy field.2)
    (here : Lists (trail ++ [name]) (Bears value) first)
    (others : Lists trail (RuleAt rest) second) :
    Lists trail (RuleAt ((name, value) :: rest)) (merge first second) := by
  rw [List.forall_mem_cons] at clear inner
  -- The paths of the first field differ from all others in the name that follows the trail.
  have apart : ((first ++ second).map Prod.fst).Nodup := by
    rw [List.map_append, List.nodup_append]
    refine ⟨here.distinct, others.distinct, ?_⟩
    rintro _ inFirst _ inSecond rfl
    obtain ⟨⟨path, parameter⟩, member, rfl⟩ := List.mem_map.mp inFirst
    obtain ⟨⟨_, parameter'⟩, member', rfl⟩ := List.mem_map.mp inSecond
    obtain ⟨below, rule, bears, -, same⟩ := (here.mem_iff _ _).mp member
    obtain ⟨names, rule', ruled, -, same'⟩ := (others.mem_iff _ _).mp member'
    have points : ∀ part ∈ trail ++ [name] ++ below, Path.Dotless part := by
      simpa [or_imp, forall_and] using ⟨dotless, clear.1, bears.dotless inner.1⟩
    have points' : ∀ part ∈ trail ++ names, Path.Dotless part := by
      simpa [or_imp, forall_and] using ⟨dotless, ruled.dotless clear.2 inner.2⟩
    obtain ⟨field, among, below', -, rfl⟩ := ruled
    have equal := (Path.join_inj points points' (by simp) (by simp)).mp (same.symm.trans same')
    obtain ⟨rfl, -⟩ : name = field.1 ∧ below = below' := by simpa using equal
    exact fresh (List.mem_map.mpr ⟨field, among, rfl⟩)
  rw [merge_eq_append apart]
  refine ⟨apart, fun names rule ruled => ?_, fun path parameter => ?_⟩
  · obtain ⟨below, bears, rfl⟩ | ruled := ruleAt_cons_iff.mp ruled
    · exact here.parsed below rule bears
    · exact others.parsed names rule ruled
  rw [List.mem_append, here.mem_iff, others.mem_iff]
  constructor
  · rintro (⟨below, rule, bears, parsed, rfl⟩ | ⟨names, rule, ruled, parsed, rfl⟩)
    · exact ⟨name :: below, rule, ruleAt_cons_iff.mpr (.inl ⟨below, bears, rfl⟩), parsed, by simp⟩
    · exact ⟨names, rule, ruleAt_cons_iff.mpr (.inr ruled), parsed, rfl⟩
  · rintro ⟨names, rule, ruled, parsed, rfl⟩
    obtain ⟨below, bears, rfl⟩ | ruled := ruleAt_cons_iff.mp ruled
    · exact .inl ⟨below, rule, bears, parsed, by simp⟩
    · exact .inr ⟨names, rule, ruled, parsed, rfl⟩

-- The induction follows the two functions that read a tree, one over values and one over fields.
mutual

/-- Reading a tidy value lists the rules it bears. -/
theorem lists_of_readAt (value : Value) (tidy : Tidy value) {trail : List String}
    (dotless : ∀ name ∈ trail, Path.Dotless name) {rules : Rules}
    (success : readAt trail value = .ok rules) : Lists trail (Bears value) rules := by
  match value, tidy with
  | .object fields, .object distinct clear inner =>
    obtain ⟨own, parameter, parsed, rfl⟩ | ⟨group, below⟩ := readAt_object_cases success
    · refine ⟨by simp, ?_, fun path other => ?_⟩
      · simp [bears_object_iff_of_isRule own, parsed]
      · simp [bears_object_iff_of_isRule own, parsed, and_comm, eq_comm]
    · have lists := lists_of_read fields distinct clear inner dotless below
      refine ⟨lists.distinct, fun names rule bears => ?_, fun path parameter => ?_⟩
      · exact lists.parsed names rule ((bears_object_iff_of_not_isRule group).mp bears)
      · simpa only [bears_object_iff_of_not_isRule group] using lists.mem_iff path parameter
  | value, .plain flat =>
    obtain rfl : [] = rules := by
      cases value with
      | object fields => contradiction
      | _ => exact Except.ok.inj success
    have never (names : List String) (rule : Fields) : ¬ Bears value names rule := by
      intro bears
      cases bears <;> contradiction
    exact ⟨by simp, by simp [never], by simp [never]⟩

/-- Reading a tidy tree lists the rules it holds. -/
theorem lists_of_read (fields : List (String × Value)) (distinct : (fields.map Prod.fst).Nodup)
    (clear : ∀ field ∈ fields, Path.Dotless field.1) (inner : ∀ field ∈ fields, Tidy field.2)
    {trail : List String} (dotless : ∀ name ∈ trail, Path.Dotless name) {rules : Rules}
    (success : read trail fields = .ok rules) : Lists trail (RuleAt fields) rules := by
  match fields with
  | [] =>
    obtain rfl := Except.ok.inj success
    exact ⟨by simp, by simp [RuleAt], by simp [RuleAt]⟩
  | (name, value) :: rest =>
    obtain ⟨fresh, distinct⟩ := List.nodup_cons.mp distinct
    obtain ⟨own, others⟩ := List.forall_mem_cons.mp clear
    obtain ⟨tidy, tidy'⟩ := List.forall_mem_cons.mp inner
    rw [read] at success
    obtain ⟨first, read, success⟩ := bind_eq_ok_iff.mp success
    obtain ⟨second, read', merged⟩ := bind_eq_ok_iff.mp success
    obtain rfl := pure_eq_ok_iff.mp merged
    have dotless' : ∀ part ∈ trail ++ [name], Path.Dotless part := by
      simpa [or_imp, forall_and] using ⟨dotless, own⟩
    have here := lists_of_readAt value tidy dotless' read
    exact here.merge fresh dotless clear inner
      (lists_of_read rest distinct others tidy' dotless read')

end

def judge (configuration : Value) (entry : String × Parameter) : Except Fault Bool := do
  entry.2.accepts (← configuration.atOr (Path.ofText entry.1) .null)

def rejects (configuration : Value) (entry : String × Parameter) : Bool :=
  match judge configuration entry with
  | .ok accepted => !accepted
  | .error _ => false

variable {configuration : Value}

theorem rejects_iff {entry : String × Parameter} {holds : Prop}
    (decides : Decides (judge configuration entry) holds) :
    rejects configuration entry = true ↔ ¬ holds := by
  obtain ⟨verdict, judged, same⟩ := decides
  simp [rejects, judged, ← same]

private theorem broken_cons (entry : String × Parameter) (rest : Rules) :
    broken configuration (entry :: rest) = do
      let accepted ← judge configuration entry
      let others ← broken configuration rest
      return if accepted then others else entry.1 :: others := by
  simp [broken, judge]

/-- A check succeeds exactly if every parameter has a verdict, with the paths that are rejected. -/
theorem broken_eq_ok_iff {paths : List String} : broken configuration rules = .ok paths ↔
    (∀ entry ∈ rules, ∃ accepted, judge configuration entry = .ok accepted) ∧
      paths = (rules.filter (rejects configuration)).map Prod.fst := by
  induction rules generalizing paths with
  | nil => simp [broken, eq_comm]
  | cons entry rest ih =>
    rw [broken_cons, bind_eq_ok_iff, List.forall_mem_cons]
    constructor
    · rintro ⟨accepted, judged, success⟩
      obtain ⟨others, checked, chosen⟩ := bind_eq_ok_iff.mp success
      obtain rfl := pure_eq_ok_iff.mp chosen
      obtain ⟨all, rfl⟩ := ih.mp checked
      refine ⟨⟨⟨accepted, judged⟩, all⟩, ?_⟩
      cases accepted <;> simp [rejects, judged]
    · rintro ⟨⟨⟨accepted, judged⟩, all⟩, rfl⟩
      refine ⟨accepted, judged, bind_eq_ok_iff.mpr ⟨_, ih.mpr ⟨all, rfl⟩, ?_⟩⟩
      cases accepted <;> simp [rejects, judged]

/-- A check fails with the fault of a parameter that has no verdict. -/
theorem exists_of_broken_eq_error {fault : Fault}
    (failure : broken configuration rules = .error fault) :
    ∃ entry ∈ rules, judge configuration entry = .error fault := by
  induction rules with
  | nil => contradiction
  | cons entry rest ih =>
    rw [broken_cons, bind_eq_error_iff] at failure
    obtain failed | ⟨accepted, -, failure⟩ := failure
    · exact ⟨entry, by simp, failed⟩
    · obtain failed | ⟨others, -, failure⟩ := bind_eq_error_iff.mp failure
      · obtain ⟨entry, member, failed⟩ := ih failed
        exact ⟨entry, by simp [member], failed⟩
      · contradiction

private theorem judge_cases {parameter : Parameter} (config : Fields) (given : names ≠ [])
    (dotless : ∀ name ∈ names, Path.Dotless name)
    (parsed : ofFields? rule = .ok (some parameter)) (bounded : Bounded rule) :
    (Decides (judge (.object config) (Path.join names, parameter))
        (Permits rule ((Value.object config).valueAt names)) ∧
      ∀ front, ¬ (Value.object config).Blocks names front) ∨
      ∃ front, judge (.object config) (Path.join names, parameter) = .error (.brokenPath front) ∧
        (Value.object config).Blocks names front := by
  obtain ⟨read, free⟩ | ⟨front, read, blocked⟩ := Value.atOr_join_cases config dotless given
  · refine .inl ⟨?_, free⟩
    rw [judge, read]
    exact Parameter.decides_accepts parsed bounded _
  · refine .inr ⟨front, ?_, blocked⟩
    rw [judge, read]
    rfl

private theorem Lists.mem_rejected_iff (lists : Lists [] (RuleAt tree) rules) {config : Fields}
    (decides : ∀ names rule parameter, RuleAt tree names rule →
      ofFields? rule = .ok (some parameter) →
        Decides (judge (.object config) (Path.join names, parameter))
          (Permits rule ((Value.object config).valueAt names))) (path : String) :
    path ∈ (rules.filter (rejects (.object config))).map Prod.fst ↔
      ∃ names rule, RuleAt tree names rule ∧ path = Path.join names ∧
        ¬ Permits rule ((Value.object config).valueAt names) := by
  rw [List.mem_map]
  constructor
  · rintro ⟨⟨path, parameter⟩, member, rfl⟩
    obtain ⟨listed, rejected⟩ := List.mem_filter.mp member
    obtain ⟨names, rule, ruled, made, rfl⟩ := (lists.mem_iff path parameter).mp listed
    exact ⟨names, rule, ruled, rfl, (rejects_iff (decides names rule _ ruled made)).mp rejected⟩
  · rintro ⟨names, rule, ruled, rfl, refused⟩
    obtain ⟨parameter, made⟩ := lists.parsed names rule ruled
    refine ⟨(Path.join names, parameter), List.mem_filter.mpr ⟨?_, ?_⟩, rfl⟩
    · exact (lists.mem_iff _ _).mpr ⟨names, rule, ruled, made, rfl⟩
    · exact (rejects_iff (decides names rule parameter ruled made)).mpr refused

/-- A check fails exactly if the way to the place of a rule is blocked, and then with the way up to
a value that blocks one. Otherwise it names, each once, the paths of the rules that do not permit
the value at their place. -/
theorem reports_violations (parsed : ofValue (.object tree) = .ok rules)
    (tidy : Tidy (.object tree)) (bounded : ∀ names rule, RuleAt tree names rule → Bounded rule)
    (config : Fields) :
    match broken (.object config) rules with
    | .error fault => ∃ names rule front, RuleAt tree names rule ∧
        (Value.object config).Blocks names front ∧ fault = .brokenPath front
    | .ok paths =>
      (∀ names rule front, RuleAt tree names rule → ¬ (Value.object config).Blocks names front) ∧
        paths.Nodup ∧ ∀ path, path ∈ paths ↔ ∃ names rule, RuleAt tree names rule ∧
          path = Path.join names ∧ ¬ Permits rule ((Value.object config).valueAt names) := by
  obtain ⟨distinct, clear, inner⟩ := tidy_object_iff.mp tidy
  have lists : Lists [] (RuleAt tree) rules :=
    lists_of_read tree distinct clear inner (by simp) parsed
  have judged (names : List String) (rule : Fields) (parameter : Parameter)
      (ruled : RuleAt tree names rule) (made : ofFields? rule = .ok (some parameter)) :=
    judge_cases config ruled.ne_nil (ruled.dotless clear inner) made (bounded names rule ruled)
  split
  · next fault failure =>
    obtain ⟨⟨path, parameter⟩, member, failed⟩ := exists_of_broken_eq_error failure
    obtain ⟨names, rule, ruled, made, rfl⟩ := (lists.mem_iff path parameter).mp member
    obtain ⟨⟨verdict, found, -⟩, -⟩ | ⟨front, found, blocked⟩ := judged names rule _ ruled made
    · simp [found] at failed
    · exact ⟨names, rule, front, ruled, blocked, Except.error.inj (failed.symm.trans found)⟩
  · next paths success =>
    obtain ⟨all, rfl⟩ := broken_eq_ok_iff.mp success
    -- A way that is blocked anywhere would have left one parameter without a verdict.
    have settled (names : List String) (rule : Fields) (parameter : Parameter)
        (ruled : RuleAt tree names rule) (made : ofFields? rule = .ok (some parameter)) :=
      (judged names rule parameter ruled made).resolve_right fun ⟨front, failed, _⟩ =>
        have ⟨_, found⟩ := all _ ((lists.mem_iff _ _).mpr ⟨names, rule, ruled, made, rfl⟩)
        nomatch failed.symm.trans found
    refine ⟨fun names rule front ruled => ?_, ?_, ?_⟩
    · obtain ⟨parameter, made⟩ := lists.parsed names rule ruled
      exact (settled names rule parameter ruled made).2 front
    · exact lists.distinct.sublist (List.filter_sublist.map _)
    · exact lists.mem_rejected_iff fun names rule parameter ruled made =>
        (settled names rule parameter ruled made).1

/-- A group with a rule for a field that is itself called `type`. -/
def nestedRules : Fields :=
  [("log", .object [("type", .object [("type", .text "enum"), ("values", .list [.int 1])])])]

/-- True is no choice although it equals one, and a number has no fields to look into. -/
theorem reports_violations_nested : ∃ rules, ofValue (.object nestedRules) = .ok rules ∧
    Tidy (.object nestedRules) ∧ (∀ names rule, RuleAt nestedRules names rule → Bounded rule) ∧
    (∃ names rule, RuleAt nestedRules names rule ∧ "log.type" = Path.join names ∧
      ¬ Permits rule ((Value.object [("log", .object [("type", .bool true)])]).valueAt names)) ∧
    ∃ names rule front, RuleAt nestedRules names rule ∧
      (Value.object [("log", .int 5)]).Blocks names front ∧
      Fault.brokenPath ["log"] = .brokenPath front := by
  have tidy : Tidy (.object nestedRules) := by
    refine .object (by decide) (by simp [nestedRules, Path.Dotless]) ?_
    refine List.forall_mem_singleton.mpr (.object (by decide) (by simp [Path.Dotless]) ?_)
    refine List.forall_mem_singleton.mpr (.object (by decide) (by simp [Path.Dotless]) ?_)
    exact List.forall_mem_cons.mpr ⟨.plain rfl, List.forall_mem_singleton.mpr (.plain rfl)⟩
  have bounded (names : List String) (rule : Fields) (ruled : RuleAt nestedRules names rule) :
      Bounded rule := by
    obtain ⟨field, member, below, bears, -⟩ := ruled
    obtain rfl := List.mem_singleton.mp member
    cases bears with
    | rule own =>
      obtain ⟨type, -, typed⟩ := own
      simp [Fields.get?] at typed
    | member group member bears =>
      obtain ⟨rfl, rfl⟩ := Prod.mk.inj (List.mem_singleton.mp member)
      cases bears with
      | rule => simp [Bounded, Fields.get, Fields.get?_cons]
      | member group => exact (group ⟨"enum", by decide, rfl⟩).elim
  have violations := reports_violations rfl tidy bounded
  exact ⟨_, rfl, tidy, bounded,
    ((violations [("log", .object [("type", .bool true)])]).2.2 "log.type").mp
      (List.mem_singleton.mpr rfl),
    violations [("log", .int 5)]⟩

end Rules

end ManifestOwnership
