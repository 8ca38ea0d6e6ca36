import ManifestOwnership.Store.Content
import ManifestOwnership.Proofs.Success
import ManifestOwnership.Proofs.Value.Equality

/-! # The content of a store as a map

Objects stand under four levels of keys, but a store is read by the whole key. Putting an object
under a key changes what is found there and nowhere else. As long as no level has a key twice, the
objects found under some key are those that are listed, each of them once.
-/

namespace ManifestOwnership.Store

namespace ObjectKey

theorem same_iff (first second : ObjectKey) : first.same second = true ↔
    first.scope.same second.scope = true ∧ first.kind.same second.kind = true ∧
      first.apiVersion.same second.apiVersion = true ∧ first.name.same second.name = true := by
  simp [same, sameGroup, sameKind, sameScope, and_assoc]

theorem same_eq_false_iff (first second : ObjectKey) : first.same second = false ↔
    first.scope.same second.scope = false ∨ first.kind.same second.kind = false ∨
      first.apiVersion.same second.apiVersion = false ∨ first.name.same second.name = false := by
  simp only [same, sameGroup, sameKind, sameScope, Bool.and_eq_false_iff, or_assoc]

theorem sameGroup_comm (first second : ObjectKey) :
    first.sameGroup second = second.sameGroup first := by
  rw [sameGroup, sameKind, sameScope, Value.same_comm first.scope, Value.same_comm first.kind,
    Value.same_comm first.apiVersion]
  rfl

/-- Values that hold no others make a key, and so does any namespace that does not count as
given. -/
theorem of_eq_ok {scope kind apiVersion name : Value}
    (atScope : scope.isKey = true ∨ scope.truthy = false) (atKind : kind.isKey = true)
    (atVersion : apiVersion.isKey = true) (atName : name.isKey = true) :
    of scope kind apiVersion name = .ok ⟨scope.orElse .null, kind, apiVersion, name⟩ := by
  have filed : (if scope.truthy then scope else .null).asKey = .ok (scope.orElse .null) := by
    unfold Value.orElse
    split_ifs with given
    · rw [Value.asKey, if_pos (by simpa [given] using atScope)]
    · rfl
  rw [of, filed]
  simp only [Value.asKey, atKind, atVersion, atName, if_true, ok_bind]
  rfl

theorem sameGroup_of_same {first second : ObjectKey} (equal : first.same second = true) :
    first.sameGroup second = true :=
  (Bool.and_eq_true_iff.mp equal).1

/-- Another name leaves the group. -/
@[simp] theorem named_sameGroup (first second : ObjectKey) (name : Value) :
    ObjectKey.sameGroup { first with name } second = first.sameGroup second := rfl

@[simp] theorem sameGroup_named (first second : ObjectKey) (name : Value) :
    first.sameGroup { second with name } = first.sameGroup second := rfl

@[simp] theorem same_refl (key : ObjectKey) : key.same key = true := by
  simp [same_iff]

theorem same_symm {first second : ObjectKey} (equal : first.same second = true) :
    second.same first = true := by
  rw [same_iff] at equal ⊢
  exact ⟨Value.same_symm equal.1, Value.same_symm equal.2.1, Value.same_symm equal.2.2.1,
    Value.same_symm equal.2.2.2⟩

theorem same_comm (first second : ObjectKey) : first.same second = second.same first :=
  Bool.eq_iff_iff.mpr ⟨same_symm, same_symm⟩

theorem same_trans {first second third : ObjectKey} (left : first.same second = true)
    (right : second.same third = true) : first.same third = true := by
  rw [same_iff] at left right ⊢
  exact ⟨Value.same_trans left.1 right.1, Value.same_trans left.2.1 right.2.1,
    Value.same_trans left.2.2.1 right.2.2.1, Value.same_trans left.2.2.2 right.2.2.2⟩

theorem same_congr_left {first second : ObjectKey} (equal : first.same second = true)
    (third : ObjectKey) : first.same third = second.same third :=
  Bool.eq_iff_iff.mpr ⟨same_trans (same_symm equal), same_trans equal⟩

theorem same_congr_right {second third : ObjectKey} (equal : second.same third = true)
    (first : ObjectKey) : first.same second = first.same third := by
  rw [same_comm first second, same_comm first third, same_congr_left equal]

end ObjectKey

namespace Level

variable {α β : Type} {level : Level α} {good : α → Prop} {key other : Value} {a new : α}

/-- No key stands twice, and what stands under each is good. -/
structure Each (good : α → Prop) (level : Level α) : Prop where
  apart : level.Pairwise fun first second => first.1.same second.1 = false
  each : ∀ row ∈ level, good row.2

theorem each_nil : Each good ([] : Level α) :=
  ⟨List.Pairwise.nil, fun _ member => nomatch member⟩

/-- Equal keys find the same. -/
theorem get?_congr (same : key.same other = true) (level : Level α) :
    level.get? key = level.get? other := by
  have keys : (fun row : Value × α => row.1.same key) = fun row => row.1.same other :=
    funext fun row => Value.same_congr_right same row.1
  rw [get?, get?, keys]

/-- Of keys apart one finds what stands under it. -/
theorem get?_eq_some_iff
    (apart : level.Pairwise fun first second => first.1.same second.1 = false) :
    level.get? key = some a ↔ ∃ row ∈ level, row.1.same key = true ∧ row.2 = a := by
  induction level with
  | nil => simp [get?]
  | cons first rest ih =>
    obtain ⟨here, apart⟩ := List.pairwise_cons.mp apart
    cases same : first.1.same key with
    | true =>
      have others : ∀ row ∈ rest, row.1.same key = false := by
        intro row member
        rw [← Value.same_congr_right same, Value.same_comm]
        exact here row member
      simp [get?, same]
      grind
    | false =>
      have tail : get? (first :: rest) key = get? rest key := by simp [get?, same]
      rw [tail, ih apart]
      simp [same]

private def replaced (key : Value) (new : α) (row : Value × α) : Value × α :=
  if row.1.same key then (row.1, new) else row

private theorem replaced_fst (key : Value) (new : α) (row : Value × α) :
    (replaced key new row).1 = row.1 := by
  unfold replaced
  split_ifs <;> rfl

private theorem get?_map_replaced (present : ∃ row ∈ level, row.1.same key = true)
    (other : Value) : get? (level.map (replaced key new)) other =
      if key.same other then some new else level.get? other := by
  have keys : (fun row : Value × α => row.1.same other) ∘ replaced key new =
      fun row => row.1.same other :=
    funext fun row => by rw [Function.comp, replaced_fst]
  rw [get?, get?, List.find?_map, keys]
  cases found : level.find? fun row => row.1.same other with
  | none =>
    obtain ⟨row, member, same⟩ := present
    have differs : row.1.same other = false := by
      simpa using List.find?_eq_none.mp found row member
    simp [← Value.same_congr_left same other, differs]
  | some row =>
    have atOther : row.1.same other = true := by
      simpa using List.find?_some found
    have here : key.same other = row.1.same key := by
      rw [← Value.same_congr_right atOther, Value.same_comm]
    cases same : row.1.same key <;> simp [replaced, here, same]

/-- Putting something under a key changes what is found there and nowhere else. -/
theorem get?_put (level : Level α) (key other : Value) (new : α) :
    (level.put key new).get? other =
      if key.same other then some new else level.get? other := by
  rw [put]
  split
  · next present => exact get?_map_replaced (List.any_eq_true.mp present) other
  · next absent =>
    have nothing : level.get? key = none := by simpa [get?] using absent
    cases same : key.same other with
    | true =>
      rw [get?_congr same, get?, Option.map_eq_none_iff] at nothing
      simp [get?, nothing, same]
    | false => simp [get?, same]

def alter (key : Value) (fresh : α) (change : α → α) (level : Level α) : Level α :=
  level.put key (change ((level.get? key).getD fresh))

/-- Work that changes what it finds changes what stands under the key. -/
theorem within_eq_alter {work : α → Except Fault Unit × α} {change : α → α} {key own : Value}
    (atKey : key.asKey = .ok own) (works : ∀ a, work a = (.ok (), change a)) (fresh : α)
    (level : Level α) : within key fresh work level = (.ok (), level.alter own fresh change) := by
  rw [within, atKey]
  simp only [works, alter]

/-- Work under a key succeeds if that can be a key and the work there does. -/
theorem outcome_within {work : α → Except Fault Unit × α} {outcome : Except Fault Unit}
    (works : ∀ a, (work a).1 = outcome) (key : Value) (fresh : α) (level : Level α) :
    (within key fresh work level).1 = key.asKey >>= fun _ => outcome := by
  rw [within]
  cases key.asKey with
  | error fault => rfl
  | ok own => exact works _

/-- What is read below a level with something changed below a key. -/
theorem bind_get?_alter (read : α → Option β) {change : α → α} {fresh : α} {b : β} {hit : Bool}
    (unread : read fresh = none)
    (changed : ∀ a, read (change a) = if hit then some b else read a)
    (key other : Value) (level : Level α) :
    ((level.alter key fresh change).get? other).bind read =
      if key.same other && hit then some b else (level.get? other).bind read := by
  rw [alter, get?_put]
  cases same : key.same other with
  | false => simp
  | true =>
    rw [get?_congr same, if_pos rfl, Option.bind_some, changed, Bool.true_and]
    cases level.get? other with
    | none => rw [Option.getD_none, unread, Option.bind_none]
    | some a => rfl

/-- Of keys apart one finds what can be read below it. -/
theorem Each.bind_get?_eq_some_iff {read : α → Option β} {holds : α → Prop} {b : β}
    (each : Each good level) (reads : ∀ a, good a → (read a = some b ↔ holds a)) (key : Value) :
    (level.get? key).bind read = some b ↔
      ∃ row ∈ level, row.1.same key = true ∧ holds row.2 := by
  rw [Option.bind_eq_some_iff]
  simp only [get?_eq_some_iff each.apart]
  constructor
  · rintro ⟨_, ⟨row, member, same, rfl⟩, found⟩
    exact ⟨row, member, same, (reads row.2 (each.each row member)).mp found⟩
  · rintro ⟨row, member, same, found⟩
    exact ⟨row.2, ⟨row, member, same, rfl⟩, (reads row.2 (each.each row member)).mpr found⟩

/-- A level stays in order when something good is put there. -/
theorem Each.put (each : Each good level) (fine : good new) (key : Value) :
    Each good (level.put key new) := by
  rw [Level.put]
  split
  · refine ⟨List.pairwise_map.mpr (each.apart.imp fun {first second} other => ?_), ?_⟩
    · split_ifs <;> exact other
    · intro row member
      obtain ⟨old, there, rfl⟩ := List.mem_map.mp member
      split_ifs
      · exact fine
      · exact each.each old there
  · next absent =>
    have others : ∀ row ∈ level, row.1.same key = false := by simpa using absent
    constructor
    · refine List.pairwise_append.mpr ⟨each.apart, List.pairwise_singleton _ _, ?_⟩
      intro row member last here
      obtain rfl := List.mem_singleton.mp here
      exact others row member
    · intro row member
      rcases List.mem_append.mp member with member | here
      · exact each.each row member
      · obtain rfl := List.mem_singleton.mp here
        exact fine

/-- A level stays in order when what is good is changed into something good. -/
theorem Each.alter {fresh : α} {change : α → α} (each : Each good level) (fine : good fresh)
    (kept : ∀ a, good a → good (change a)) (key : Value) :
    Each good (level.alter key fresh change) := by
  refine each.put (kept _ ?_) key
  cases found : level.get? key with
  | none => exact fine
  | some a =>
    obtain ⟨row, member, _, rfl⟩ := (get?_eq_some_iff each.apart).mp found
    exact each.each row member

end Level

namespace Content

variable {content : Content} {key other : ObjectKey} {object : Value}

/-- At no level does a key stand twice. -/
def Apart : Content → Prop :=
  Level.Each <| Level.Each <| Level.Each <| Level.Each fun _ => True

theorem apart_nil : Apart [] :=
  Level.each_nil

/-- The content with an object put under a key, whatever stood there. -/
def put (key : ObjectKey) (object : Value) : Content → Content :=
  Level.alter key.scope [] <| Level.alter key.kind [] <| Level.alter key.apiVersion [] fun names =>
    names.put key.name object

/-- An object with an identity is filed under it. -/
theorem file_of_key {scope kind apiVersion name : Value}
    (atKey : ObjectKey.of scope kind apiVersion name = .ok key) (content : Content) :
    content.file scope kind apiVersion name object = (.ok (), content.put key object) := by
  simp only [ObjectKey.of, bind_eq_ok_iff, pure_eq_ok_iff] at atKey
  obtain ⟨_, atScope, _, atKind, _, atVersion, _, atName, rfl⟩ := atKey
  have names := Level.within_eq_alter atName
    (show ∀ _ : Value, ((.ok (), object) : Except Fault Unit × Value) = (.ok (), object) from
      fun _ => rfl) object
  have versions := Level.within_eq_alter atVersion names []
  have kinds := Level.within_eq_alter atKind versions []
  exact Level.within_eq_alter atScope kinds [] content

/-- An object is filed exactly if it has an identity, whatever levels have been opened for it. -/
theorem outcome_file (scope kind apiVersion name object : Value) (content : Content) :
    (content.file scope kind apiVersion name object).1 =
      ObjectKey.of scope kind apiVersion name >>= fun _ => pure () := by
  have names (names : Level Value) :
      (Level.within name object (fun _ => (.ok (), object)) names).1 =
        name.asKey >>= fun _ => .ok () :=
    Level.outcome_within (fun _ => rfl) name object names
  have versions := Level.outcome_within names apiVersion []
  have kinds := Level.outcome_within versions kind []
  refine (Level.outcome_within kinds (scope.orElse .null) [] content).trans ?_
  simp only [ObjectKey.of, bind_assoc, pure_bind]
  rfl

/-- Keys of one object find the same. -/
theorem find?_congr (same : key.same other = true) :
    content.find? key = content.find? other := by
  obtain ⟨scope, kind, apiVersion, name⟩ := (ObjectKey.same_iff key other).mp same
  simp only [find?, Level.get?_congr scope, Level.get?_congr kind, Level.get?_congr apiVersion,
    Level.get?_congr name]

/-- Putting an object under a key changes what is found there and nowhere else. -/
theorem find?_put (content : Content) (key other : ObjectKey) (object : Value) :
    (content.put key object).find? other =
      if key.same other then some object else content.find? other := by
  let inNames (names : Level Value) := names.get? other.name
  let inVersions (versions : Level (Level Value)) := (versions.get? other.apiVersion).bind inNames
  let inKinds (kinds : Level (Level (Level Value))) := (kinds.get? other.kind).bind inVersions
  have atName (names : Level Value) : inNames (names.put key.name object) =
      if key.name.same other.name then some object else inNames names :=
    Level.get?_put names key.name other.name object
  have atVersion := Level.bind_get?_alter inNames (show inNames [] = none from rfl) atName
    key.apiVersion other.apiVersion
  have atKind := Level.bind_get?_alter inVersions (show inVersions [] = none from rfl) atVersion
    key.kind other.kind
  refine (Level.bind_get?_alter inKinds (show inKinds [] = none from rfl) atKind key.scope
    other.scope content).trans ?_
  simp only [ObjectKey.same, ObjectKey.sameGroup, ObjectKey.sameKind, ObjectKey.sameScope,
    Bool.and_assoc]
  rfl

theorem Apart.put (apart : Apart content) (key : ObjectKey) (object : Value) :
    Apart (content.put key object) :=
  Level.Each.alter apart Level.each_nil
    (fun _ kinds => kinds.alter Level.each_nil
      (fun _ versions => versions.alter Level.each_nil (fun _ names => names.put trivial _) _) _) _

/-- An object is listed with a key exactly if it stands under the four parts of it. -/
theorem mem_entries_iff : (key, object) ∈ content.entries ↔
    ∃ kinds, (key.scope, kinds) ∈ content ∧ ∃ versions, (key.kind, versions) ∈ kinds ∧
      ∃ names, (key.apiVersion, names) ∈ versions ∧ (key.name, object) ∈ names := by
  obtain ⟨scope, kind, apiVersion, name⟩ := key
  simp only [entries, List.mem_flatMap, List.mem_map, Prod.exists, Prod.mk.injEq,
    ObjectKey.mk.injEq]
  grind

/-- Of keys apart one finds the object that is listed with it. -/
theorem find?_eq_some_iff (apart : Apart content) : content.find? key = some object ↔
    ∃ own, (own, object) ∈ content.entries ∧ own.same key = true := by
  have names (names : Level Value) (each : Level.Each (fun _ => True) names) :
      names.get? key.name = some object ↔
        ∃ row ∈ names, row.1.same key.name = true ∧ row.2 = object :=
    Level.get?_eq_some_iff each.apart
  have versions (versions : Level (Level Value)) (each : Level.Each _ versions) :=
    each.bind_get?_eq_some_iff names key.apiVersion
  have kinds (kinds : Level (Level (Level Value))) (each : Level.Each _ kinds) :=
    each.bind_get?_eq_some_iff versions key.kind
  refine (Level.Each.bind_get?_eq_some_iff apart kinds key.scope).trans ?_
  simp only [mem_entries_iff, ObjectKey.same_iff]
  constructor
  · rintro ⟨⟨scope, _⟩, atScope, sameScope, ⟨kind, _⟩, atKind, sameKind, ⟨apiVersion, _⟩, atVersion,
      sameVersion, ⟨name, _⟩, atName, sameName, rfl⟩
    exact ⟨⟨scope, kind, apiVersion, name⟩, ⟨_, atScope, _, atKind, _, atVersion, atName⟩,
      sameScope, sameKind, sameVersion, sameName⟩
  · rintro ⟨own, ⟨_, atScope, _, atKind, _, atVersion, atName⟩, sameScope, sameKind, sameVersion,
      sameName⟩
    exact ⟨_, atScope, sameScope, _, atKind, sameKind, _, atVersion, sameVersion, _, atName,
      sameName, rfl⟩

/-- What is listed with a key is found under it. -/
theorem Apart.find?_of_mem (apart : Apart content) (member : (key, object) ∈ content.entries) :
    content.find? key = some object :=
  (find?_eq_some_iff apart).mpr ⟨key, member, ObjectKey.same_refl key⟩

private theorem pairwise_flatMap {α : Type} {good : α → Prop} {level : Level α}
    (each : Level.Each good level) (part : ObjectKey → Value)
    (differ : ∀ first second : ObjectKey, (part first).same (part second) = false →
      first.same second = false) {rows : Value × α → List (ObjectKey × Value)}
    (filed : ∀ row, ∀ entry ∈ rows row, part entry.1 = row.1)
    (inner : ∀ row, good row.2 →
      (rows row).Pairwise fun first second => first.1.same second.1 = false) :
    (level.flatMap rows).Pairwise fun first second => first.1.same second.1 = false := by
  refine List.pairwise_flatMap.mpr ⟨fun row member => inner row (each.each row member), ?_⟩
  -- Entries of two rows differ in the part of the key that the rows stand for.
  refine each.apart.imp fun {row row'} apart first member second member' => differ _ _ ?_
  rw [filed row first member, filed row' second member']
  exact apart

/-- No two objects are listed with the same key. -/
theorem Apart.entries (apart : Apart content) :
    content.entries.Pairwise fun first second => first.1.same second.1 = false := by
  refine pairwise_flatMap apart (·.scope)
    (fun first second apart => (ObjectKey.same_eq_false_iff first second).mpr (.inl apart)) ?_
    fun (scope, kinds) each => ?_
  · intro row entry member
    simp only [List.mem_flatMap, List.mem_map] at member
    obtain ⟨_, _, _, _, _, _, rfl⟩ := member
    rfl
  refine pairwise_flatMap each (·.kind)
    (fun first second apart => (ObjectKey.same_eq_false_iff first second).mpr (.inr (.inl apart)))
    ?_ fun (kind, versions) each => ?_
  · intro row entry member
    simp only [List.mem_flatMap, List.mem_map] at member
    obtain ⟨_, _, _, _, rfl⟩ := member
    rfl
  refine pairwise_flatMap each (·.apiVersion)
    (fun first second apart =>
      (ObjectKey.same_eq_false_iff first second).mpr (.inr (.inr (.inl apart)))) ?_
    fun (apiVersion, names) each => ?_
  · intro row entry member
    obtain ⟨_, _, rfl⟩ := List.mem_map.mp member
    rfl
  refine List.pairwise_map.mpr (each.apart.imp fun apart => ?_)
  exact (ObjectKey.same_eq_false_iff _ _).mpr (.inr (.inr (.inr apart)))

private theorem countP_of_pairwise {entries : List (ObjectKey × Value)}
    (apart : entries.Pairwise fun first second => first.1.same second.1 = false)
    (present : ∃ entry ∈ entries, entry.1.same key = true) :
    entries.countP (fun entry => entry.1.same key) = 1 := by
  induction entries with
  | nil => simp at present
  | cons first rest ih =>
    obtain ⟨here, apart⟩ := List.pairwise_cons.mp apart
    cases same : first.1.same key with
    | true =>
      have others : rest.countP (fun entry => entry.1.same key) = 0 := by
        rw [List.countP_eq_zero]
        intro entry member there
        rw [← ObjectKey.same_congr_right same, ObjectKey.same_comm, here entry member] at there
        contradiction
      rw [List.countP_cons, others, if_pos same]
    | false =>
      have later : ∃ entry ∈ rest, entry.1.same key = true := by simpa [same] using present
      rw [List.countP_cons, ih apart later, if_neg (by simp [same])]

/-- A key that finds an object is the key of one entry. -/
theorem countP_eq_one (apart : Apart content) (found : content.find? key = some object) :
    content.entries.countP (fun entry => entry.1.same key) = 1 := by
  obtain ⟨own, there, same⟩ := (find?_eq_some_iff apart).mp found
  exact countP_of_pairwise apart.entries ⟨_, there, same⟩

end Content

end ManifestOwnership.Store
