import ManifestOwnership.Log.Line
import ManifestOwnership.Proofs.Value.Dotted

/-! # The object that a log line is about

The attributes that identify an object and name a revision are the last ones that go into a line.
Whatever a message, an argument or another attribute merges in comes before them, and what is done
to the line afterwards concerns other fields. So a line that is shown at all tells the identity of
the object its record is about, as far as that identity is no object and is not merged in itself.
Of the formatter that a formatter is built on nothing is used but that it `PutsInOrder`, and the
standard one does.
-/

namespace ManifestOwnership.Log

namespace Line

variable {record : Record} {line whole : Fields} {name : String} {names : List String}
  {value : Value} {nameOf : String → String}

theorem put_of_flat (flat : value.isObject = false) :
    put name value line = Fields.set line name value := by
  cases value with
  | object fields => contradiction
  | _ => rfl

theorem putShown_of_flat {source : String}
    (given : Fields.get? record.attributes source = some value) (flat : value.isObject = false) :
    putShown nameOf record line source = Fields.set line (nameOf source) value := by
  simp only [putShown, given, put_of_flat flat]

/-- An attribute that is no object touches no name but its own. -/
theorem get?_putShown_of_ne {source : String} (flat : (record.get source).isObject = false)
    (other : name ≠ nameOf source) :
    Fields.get? (putShown nameOf record line source) name = Fields.get? line name := by
  cases found : Fields.get? record.attributes source with
  | none => simp only [putShown, found]
  | some value =>
    rw [Record.get, Fields.get, found, Option.getD_some] at flat
    rw [putShown_of_flat found flat, Fields.get?_set_of_ne _ _ other]

private theorem get?_foldl_putShown_of_not_mem (own : ∀ name ∈ names, nameOf name = name)
    (flat : ∀ name ∈ names, (record.get name).isObject = false) (fresh : name ∉ names) :
    Fields.get? (names.foldl (putShown nameOf record) line) name = Fields.get? line name := by
  induction names generalizing line with
  | nil => rfl
  | cons first rest ih =>
    obtain ⟨named, ownRest⟩ := List.forall_mem_cons.mp own
    obtain ⟨here, others⟩ := List.forall_mem_cons.mp flat
    rw [List.mem_cons, not_or] at fresh
    rw [List.foldl_cons, ih ownRest others fresh.2]
    exact get?_putShown_of_ne here (named.symm ▸ fresh.1)

/-- Of attributes that are shown one after the other under their own names, none of them an object,
each one stands in the line. -/
theorem get?_foldl_putShown (own : ∀ name ∈ names, nameOf name = name)
    (flat : ∀ name ∈ names, (record.get name).isObject = false)
    (distinct : names.Nodup) (member : name ∈ names)
    (given : Fields.get? record.attributes name = some value) :
    Fields.get? (names.foldl (putShown nameOf record) line) name = some value := by
  induction names generalizing line with
  | nil => contradiction
  | cons first rest ih =>
    obtain ⟨named, ownRest⟩ := List.forall_mem_cons.mp own
    obtain ⟨here, others⟩ := List.forall_mem_cons.mp flat
    obtain ⟨fresh, distinct⟩ := List.nodup_cons.mp distinct
    rw [List.foldl_cons]
    obtain rfl | later := List.mem_cons.mp member
    · rw [Record.get, Fields.get, given, Option.getD_some] at here
      rw [get?_foldl_putShown_of_not_mem ownRest others fresh, putShown_of_flat given here, named,
        Fields.get?_set_self]
    · exact ih ownRest others distinct later

/-- Where an object tells its identity, under the names that a line shows. -/
def identity : List (String × List String) :=
  [("apiVersion", ["apiVersion"]), ("kind", ["kind"]), ("resourceName", ["metadata", "name"]),
    ("resourceNamespace", ["metadata", "namespace"]),
    ("resourceVersion", ["metadata", "resourceVersion"])]

/-- The names that a line shows last: the revision, and the identity of an object. -/
def last : List String :=
  "revision" :: identity.map Prod.fst

/-- Of the last attributes that are shown, under their own names, each one stands in the line from
which on none is an object, whatever the ones before it merge in. -/
theorem get?_ofRecord {shown : List String} (front names : List String)
    (split : shown = front ++ names) (own : ∀ name ∈ names, nameOf name = name)
    (flat : ∀ name ∈ names, (record.get name).isObject = false) (distinct : names.Nodup)
    (member : name ∈ names) (given : Fields.get? record.attributes name = some value) :
    Fields.get? (ofRecord nameOf shown record) name = some value := by
  rw [ofRecord, split, List.foldl_append]
  exact get?_foldl_putShown own flat distinct member given

/-- The names of a line are distinct. -/
theorem nodup_ofRecord (nameOf : String → String) (shown : List String) (record : Record) :
    ((ofRecord nameOf shown record).map Prod.fst).Nodup := by
  have shownTo (line : Fields) (distinct : (line.map Prod.fst).Nodup) :
      ((shown.foldl (putShown nameOf record) line).map Prod.fst).Nodup := by
    induction shown generalizing line with
    | nil => exact distinct
    | cons source rest ih =>
      refine ih _ ?_
      rw [putShown]
      split
      · next value found =>
        cases value with
        | object fields => exact Fields.nodup_foldl_set distinct fields
        | _ => exact Fields.nodup_set distinct _ _
      · exact distinct
  exact shownTo [] List.nodup_nil

/-- Arguments that are merged in leave the line, and change its message at most. -/
theorem combined_cases (success : combined line = .ok whole) :
    whole = line ∨ (whole = line.filter fun (name, _) => name != "args") ∨
      ∃ message, whole =
        Fields.set (line.filter fun (name, _) => name != "args") "message" message := by
  unfold combined at success
  split at success
  · exact .inl (Except.ok.inj success).symm
  · dsimp only at success
    split_ifs at success
    · exact .inr (.inl (Except.ok.inj success).symm)
    · exact .inr (.inr ⟨_, (Except.ok.inj success).symm⟩)
    · obtain ⟨message, -, rfl⟩ := map_eq_ok_iff.mp success
      exact .inr (.inr ⟨message, rfl⟩)

theorem get?_combined (success : combined line = .ok whole) (other : name ≠ "args")
    (other' : name ≠ "message") : Fields.get? whole name = Fields.get? line name := by
  obtain rfl | rfl | ⟨message, rfl⟩ := combined_cases success
  · rfl
  · rw [Fields.get?_filter_of_ne _ other]
  · rw [Fields.get?_set_of_ne _ _ other', Fields.get?_filter_of_ne _ other]

theorem nodup_combined (success : combined line = .ok whole)
    (distinct : (line.map Prod.fst).Nodup) : (whole.map Prod.fst).Nodup := by
  have kept : ((line.filter fun (name, _) => name != "args").map Prod.fst).Nodup :=
    distinct.sublist (List.filter_sublist.map _)
  obtain rfl | rfl | ⟨message, rfl⟩ := combined_cases success
  · exact distinct
  · exact kept
  · exact Fields.nodup_set kept _ _

theorem lowerLevel_eq_ok_iff {lowered : Fields} : lowerLevel line = .ok lowered ↔
    ∃ level, Fields.get? line "level" = some (.text level) ∧
      lowered = Fields.set line "level" (.text (Text.lowerCase level)) := by
  unfold lowerLevel
  split
  · next absent => simp [absent]
  · next level found => simp [found, eq_comm]
  · next value other found =>
    simp only [reduceCtorEq, found, Option.some.injEq, false_iff]
    rintro ⟨level, rfl, -⟩
    exact other level rfl

end Line

/-- What is relied on of a formatter that others are built on. It puts the attributes that are to be
shown into a line in order, and merges those that are objects. What it does to the record before and
to the line afterwards leaves the attributes that others add alone, also their names. -/
structure Base.PutsInOrder (base : Base) : Prop where
  nameOf : ∀ name ∈ Formatter.added, base.nameOf name = name
  line : ∀ shown depth record line, base.line shown depth record = .ok line →
    (line.map Prod.fst).Nodup ∧ ∃ told : Record,
      (∀ name ∈ Formatter.added,
        Fields.get? told.attributes name = Fields.get? record.attributes name) ∧
      ∀ name ∈ Formatter.added,
        Fields.get? line name = Fields.get? (Line.ofRecord base.nameOf shown told) name

theorem Base.putsInOrder_standard : Base.standard.PutsInOrder where
  nameOf := by decide
  line := by
    intro shown depth record line success
    simp only [standard, bind_eq_ok_iff] at success
    obtain ⟨message, -, time, -, exception, -, whole, combined, success⟩ := success
    obtain ⟨lowered, lower, same⟩ := success
    obtain ⟨level, -, rfl⟩ := Line.lowerLevel_eq_ok_iff.mp lower
    obtain rfl := pure_eq_ok_iff.mp same
    have apart : ∀ name ∈ Formatter.added, name ∉ ["message", "asctime", "exc_text", "args",
        "level", "num_indent"] := by
      decide
    simp only [List.mem_cons, List.not_mem_nil, or_false, not_or] at apart
    have distinct := Line.nodup_combined combined (Line.nodup_ofRecord _ _ _)
    refine ⟨Fields.nodup_set (Fields.nodup_set distinct _ _) _ _,
      ((record.set "message" message).set "asctime" time).set "exc_text" exception,
      fun name member => ?_, fun name member => ?_⟩
    · obtain ⟨message', time', exception', -⟩ := apart name member
      simp only [Record.set, Fields.get?_set_of_ne _ _ message', Fields.get?_set_of_ne _ _ time',
        Fields.get?_set_of_ne _ _ exception']
    · obtain ⟨message', -, -, args, level', depth'⟩ := apart name member
      rw [Fields.get?_set_of_ne _ _ depth', Fields.get?_set_of_ne _ _ level',
        Line.get?_combined combined args message']
      rfl

namespace Formatter

variable {base : Base} {formatter : Formatter} {record named : Record} {name : String}
  {value : Value} {depth : Nat}

def resource (formatter : Formatter) (record : Record) : Value :=
  (record.get "resource").orElse formatter.manifest

def revision (formatter : Formatter) (record : Record) : Value :=
  (record.get "revision").orElse formatter.revisionName

/-- The identity that a resource tells, null where it tells nothing. -/
def identityOf (resource : Value) : Fields :=
  Line.identity.map fun (name, place) => (name, resource.valueAt place)

theorem get?_withRevision_of_ne (other : name ≠ "revision") :
    Fields.get? (formatter.withRevision record).attributes name =
      Fields.get? record.attributes name := by
  unfold withRevision
  split
  · exact Fields.get?_set_of_ne _ _ other
  · rfl

/-- A revision that counts as given is the one that a record names. -/
theorem get?_withRevision (given : (formatter.revision record).truthy = true) :
    Fields.get? (formatter.withRevision record).attributes "revision" =
      some (formatter.revision record) := by
  unfold withRevision
  unfold revision Value.orElse at given ⊢
  split
  · next named =>
    rw [Bool.and_eq_true, Bool.not_eq_true'] at named
    rw [named.2]
    exact Fields.get?_set_self _ _ _
  · next unnamed =>
    cases own : (record.get "revision").truthy with
    | true => exact Fields.get?_of_truthy own
    | false =>
      rw [own, if_neg Bool.false_ne_true] at given
      simp [given, own] at unnamed

theorem resource_withRevision :
    formatter.resource (formatter.withRevision record) = formatter.resource record := by
  have other : "resource" ≠ "revision" := by decide
  simp only [resource, Record.get, Fields.get, get?_withRevision_of_ne other]

/-- A record is given the identity of the object it is about, if there is one. -/
theorem withIdentity_cases (success : formatter.withIdentity record = .ok named) :
    ((formatter.resource record).truthy = false ∧ named = record) ∨
    ((formatter.resource record).truthy = true ∧
      named = (identityOf (formatter.resource record)).foldl
        (fun record (name, value) => record.set name value) record) := by
  change (if !(formatter.resource record).truthy then pure record else _) = _ at success
  cases given : (formatter.resource record).truthy with
  | false =>
    rw [given] at success
    exact .inl ⟨rfl, (Except.ok.inj success).symm⟩
  | true =>
    rw [given, if_neg (by simp)] at success
    simp only [bind_eq_ok_iff] at success
    obtain ⟨metadata, opened, version, read, kind, read', success⟩ := success
    obtain ⟨name, inner, space, inner', revision, inner'', same⟩ := success
    have told : identityOf (formatter.resource record) = [("apiVersion", version), ("kind", kind),
        ("resourceName", name), ("resourceNamespace", space), ("resourceVersion", revision)] := by
      simp only [identityOf, Line.identity, List.map_cons, List.map_nil, resource,
        Value.valueAt_of_field read, Value.valueAt_of_field read',
        Value.valueAt_of_fieldOrEmpty opened inner, Value.valueAt_of_fieldOrEmpty opened inner',
        Value.valueAt_of_fieldOrEmpty opened inner'']
    exact .inr ⟨rfl, by rw [told, ← pure_eq_ok_iff.mp same]⟩

private theorem attributes_foldl_set (values : Fields) (record : Record) :
    (values.foldl (fun record (name, value) => record.set name value) record).attributes =
      values.foldl (fun all (name, value) => Fields.set all name value) record.attributes := by
  induction values generalizing record with
  | nil => rfl
  | cons field rest ih => exact ih _

/-- What a record has that was given its revision and its identity. -/
theorem get?_identified
    (success : formatter.withIdentity (formatter.withRevision record) = .ok named) :
    (∀ field ∈ Line.identity, Fields.get? named.attributes field.1 =
      if (formatter.resource record).truthy then
        some ((formatter.resource record).valueAt field.2)
      else Fields.get? record.attributes field.1) ∧
    ((formatter.revision record).truthy = true →
      Fields.get? named.attributes "revision" = some (formatter.revision record)) := by
  have cases := withIdentity_cases success
  rw [resource_withRevision] at cases
  obtain ⟨nothing, rfl⟩ | ⟨given, rfl⟩ := cases
  · refine ⟨fun field member => ?_, get?_withRevision⟩
    rw [nothing, if_neg Bool.false_ne_true]
    refine get?_withRevision_of_ne ?_
    revert field
    decide
  · have distinct : ((identityOf (formatter.resource record)).map Prod.fst).Nodup := by
      simp [identityOf, Line.identity]
    refine ⟨fun field member => ?_, fun named => ?_⟩
    · have told : ∀ field ∈ Line.identity,
          Fields.get? (identityOf (formatter.resource record)) field.1 =
            some ((formatter.resource record).valueAt field.2) := by
        simp [identityOf, Line.identity, Fields.get?_cons]
      rw [given, if_pos rfl, attributes_foldl_set, Fields.get?_foldl_set distinct,
        told field member, Option.some_or]
    · have untold : Fields.get? (identityOf (formatter.resource record)) "revision" = none := by
        simp [identityOf, Line.identity, Fields.get?_cons]
      rw [attributes_foldl_set, Fields.get?_foldl_set distinct, untold, Option.none_or]
      exact get?_withRevision named

/-- Of the attributes that are added last, each one stands in the line from which on none is an
object. -/
theorem get?_line (puts : base.PutsInOrder) {told : Record} (front names : List String)
    (split : Line.last = front ++ names)
    (flat : ∀ name ∈ names, (told.get name).isObject = false) (member : name ∈ names)
    (given : Fields.get? told.attributes name = some value) :
    Fields.get? (Line.ofRecord base.nameOf (base.attributes ++ added) told) name = some value := by
  have added_eq : added = ["process", "thread", "threadName"] ++ (front ++ names) := by
    rw [← split]
    rfl
  have distinct : Line.last.Nodup := by decide
  rw [split] at distinct
  refine Line.get?_ofRecord (base.attributes ++ ["process", "thread", "threadName"] ++ front)
    names ?_ (fun name member => puts.nameOf name ?_) flat (List.nodup_append.mp distinct).2.1 member
    given
  · rw [added_eq, List.append_assoc, List.append_assoc]
  · rw [added_eq]
    exact List.mem_append_right _ (List.mem_append_right _ member)

/-- A line that is shown has distinct names, and under the last ones it is what the record shows
that was given its revision and its identity. -/
theorem exists_line (puts : base.PutsInOrder)
    (success : lineOn base formatter depth record = .ok value) :
    ∃ named told line, formatter.withIdentity (formatter.withRevision record) = .ok named ∧
      (∀ name ∈ Line.last,
        Fields.get? told.attributes name = Fields.get? named.attributes name) ∧
      value = .object line ∧ (line.map Prod.fst).Nodup ∧
      ∀ name ∈ Line.last, Fields.get? line name =
        Fields.get? (Line.ofRecord base.nameOf (base.attributes ++ added) told) name := by
  simp only [lineOn, bind_eq_ok_iff] at success
  obtain ⟨named, identified, line, made, same⟩ := success
  obtain ⟨distinct, told, kept, shown⟩ := puts.line _ _ _ _ made
  have added_of_last : ∀ name ∈ Line.last, name ∈ added := by decide
  exact ⟨named, told, line, identified, fun name member => kept name (added_of_last name member),
    (pure_eq_ok_iff.mp same).symm, distinct,
    fun name member => shown name (added_of_last name member)⟩

/-- The line of a record at any depth, whatever its message, its arguments and its attributes, and on
whatever formatter that puts them in order, tells the identity of the object it is about, if that is
made of no objects, and names the revision, if that is none either and no part of an identity is
one. -/
theorem identifies_resource {text : String} (puts : base.PutsInOrder)
    (success : (lineOn base formatter depth record).map Value.json = .ok text) :
    ∃ line : Fields, text = (Value.object line).json ∧ (line.map Prod.fst).Nodup ∧
      ((formatter.resource record).truthy = true →
        (∀ field ∈ Line.identity,
          ((formatter.resource record).valueAt field.2).isObject = false) →
        ∀ field ∈ Line.identity,
          Fields.get? line field.1 = some ((formatter.resource record).valueAt field.2)) ∧
      ((formatter.revision record).truthy = true → (formatter.revision record).isObject = false →
        (∀ field ∈ Line.identity, (if (formatter.resource record).truthy then
          (formatter.resource record).valueAt field.2 else record.get field.1).isObject = false) →
        Fields.get? line "revision" = some (formatter.revision record)) := by
  obtain ⟨value, formatted, rfl⟩ := map_eq_ok_iff.mp success
  obtain ⟨named, told, line, identified, kept, rfl, distinct, shown⟩ := exists_line puts formatted
  obtain ⟨identity, revision⟩ := get?_identified identified
  have holds (field : String × List String) (member : field ∈ Line.identity) :=
    (kept _ (List.mem_cons_of_mem _ (List.mem_map_of_mem member))).trans (identity field member)
  have plain (each : ∀ field ∈ Line.identity, (if (formatter.resource record).truthy then
      (formatter.resource record).valueAt field.2 else record.get field.1).isObject = false) :
      ∀ name ∈ Line.identity.map Prod.fst, (told.get name).isObject = false := by
    rw [List.forall_mem_map]
    intro field member
    have flat := each field member
    rw [Record.get, Fields.get, holds field member]
    split
    · next given => simpa [given] using flat
    · next nothing => simpa [nothing, Record.get, Fields.get] using flat
  refine ⟨line, rfl, distinct, fun given flat field member => ?_, fun given flat each => ?_⟩
  · have placed : field.1 ∈ Line.identity.map Prod.fst := List.mem_map_of_mem member
    rw [shown _ (List.mem_cons_of_mem _ placed)]
    refine get?_line puts ["revision"] _ rfl (plain ?_) placed ?_
    · simpa only [given, if_true] using flat
    · rw [holds field member, given, if_pos rfl]
  · have named := (kept _ List.mem_cons_self).trans (revision given)
    rw [shown _ List.mem_cons_self]
    refine get?_line puts [] Line.last rfl ?_ List.mem_cons_self named
    refine List.forall_mem_cons.mpr ⟨?_, plain each⟩
    rw [Record.get, Fields.get, named, Option.getD_some]
    exact flat

/-- A record about a role, with a message that would pass for another object and bring arguments. -/
def posing : Record :=
  .make (.text "ESTAB") (.text "INFO") (.object [("kind", .text "Secret"),
    ("revision", .text "other"), ("message", .text "%s"), ("args", .text "done")]) [] (.int 0)
    [("resource", .object [("kind", .text "Role"), ("metadata", .object [("name", .text "a")])])]

/-- On the standard formatter the line is about the role all the same. -/
theorem identifies_resource_posing : ∃ text, format ⟨.null, .text "r-1"⟩ posing = .ok text ∧
    (resource ⟨.null, .text "r-1"⟩ posing).truthy = true ∧
    (∀ field ∈ Line.identity,
      ((resource ⟨.null, .text "r-1"⟩ posing).valueAt field.2).isObject = false) ∧
    revision ⟨.null, .text "r-1"⟩ posing = .text "r-1" ∧
    ∃ line : Fields, text = (Value.object line).json ∧ (line.map Prod.fst).Nodup ∧
      Fields.get? line "kind" = some (.text "Role") ∧
      Fields.get? line "resourceName" = some (.text "a") ∧
      Fields.get? line "resourceVersion" = some .null ∧
      Fields.get? line "revision" = some (.text "r-1") := by
  have plain : ∀ field ∈ Line.identity,
      ((resource ⟨.null, .text "r-1"⟩ posing).valueAt field.2).isObject = false := by
    decide
  obtain ⟨text, success⟩ : ∃ text, format ⟨.null, .text "r-1"⟩ posing = .ok text := ⟨_, rfl⟩
  obtain ⟨line, same, distinct, told, named⟩ :=
    identifies_resource Base.putsInOrder_standard success
  have told := told rfl plain
  refine ⟨text, success, rfl, plain, rfl, line, same, distinct, ?_, ?_, ?_, ?_⟩
  · exact told ("kind", ["kind"]) (by decide)
  · exact told ("resourceName", ["metadata", "name"]) (by decide)
  · exact told ("resourceVersion", ["metadata", "resourceVersion"]) (by decide)
  · exact named rfl rfl plain

end Formatter

end ManifestOwnership.Log
