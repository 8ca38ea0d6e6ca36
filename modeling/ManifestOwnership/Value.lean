import ManifestOwnership.Fault
import ManifestOwnership.Number.Line

/-! # Manifest values

The values a manifest is made of. An object keeps its fields in order and is read and written by
field name: reading takes the first field of a name, and writing replaces it in place or adds a
field at the end. Manifests come from outside and may hold a value of any kind anywhere, so each
access says which fault it raises on a value that does not support it.
-/

namespace ManifestOwnership

/-- A value of a manifest. -/
inductive Value where
  | null
  | bool (b : Bool)
  | int (n : Int)
  | float (x : Binary64)
  | text (s : String)
  | list (items : List Value)
  | object (fields : List (String × Value))
  deriving Inhabited

abbrev Fields := List (String × Value)

namespace Fields

/-- The value of the first field of a name. -/
def get? (fields : Fields) (name : String) : Option Value :=
  fields.lookup name

/-- The value of a field, null if there is none. -/
def get (fields : Fields) (name : String) : Value :=
  (get? fields name).getD .null

/-- Replaces the first field of a name in place, or adds one at the end. -/
def set (fields : Fields) (name : String) (new : Value) : Fields :=
  match fields with
  | [] => [(name, new)]
  | (key, value) :: rest =>
    if key == name then (key, new) :: rest else (key, value) :: set rest name new

@[simp] theorem get?_nil (name : String) : get? [] name = none := rfl

theorem get?_cons (key name : String) (value : Value) (rest : Fields) :
    get? ((key, value) :: rest) name = if name = key then some value else get? rest name := by
  by_cases same : name = key
  · simp [get?, same]
  · have differs : (name == key) = false := beq_false_of_ne same
    simp [get?, List.lookup_cons, same, differs]

/-- A field that is read is one of the fields. -/
theorem mem_of_get? {fields : Fields} {name : String} {value : Value}
    (found : get? fields name = some value) : (name, value) ∈ fields := by
  induction fields with
  | nil => simp at found
  | cons first rest ih =>
    obtain ⟨key, other⟩ := first
    rw [get?_cons] at found
    split at found
    · next same => simp_all
    · exact List.mem_cons_of_mem _ (ih found)

/-- Each name among the fields can be read. -/
theorem exists_get?_of_mem {fields : Fields} {field : String × Value}
    (member : field ∈ fields) : ∃ value, get? fields field.1 = some value := by
  induction fields with
  | nil => simp at member
  | cons first rest ih =>
    obtain ⟨key, other⟩ := first
    rw [get?_cons]
    split
    · exact ⟨other, rfl⟩
    · next differs =>
      rcases List.mem_cons.mp member with rfl | member
      · exact (differs rfl).elim
      · exact ih member

/-- What is written to a field is read from it. -/
@[simp] theorem get?_set_self (fields : Fields) (name : String) (new : Value) :
    get? (set fields name new) name = some new := by
  induction fields with
  | nil => simp [set, get?_cons]
  | cons first rest ih =>
    obtain ⟨key, value⟩ := first
    by_cases same : key = name
    · simp [set, get?_cons, same]
    · simp [set, get?_cons, same, Ne.symm same, ih]

/-- Writing to a field leaves all others. -/
theorem get?_set_of_ne (fields : Fields) {name other : String} (new : Value)
    (distinct : other ≠ name) : get? (set fields name new) other = get? fields other := by
  induction fields with
  | nil => simp [set, get?_cons, distinct]
  | cons first rest ih =>
    obtain ⟨key, value⟩ := first
    by_cases same : key = name
    · simp [set, get?_cons, same, distinct]
    · simp [set, get?_cons, same, ih]

/-- What is written last to a field stays. -/
@[simp] theorem set_set (fields : Fields) (name : String) (first second : Value) :
    set (set fields name first) name second = set fields name second := by
  induction fields with
  | nil => simp [set]
  | cons field rest ih =>
    obtain ⟨key, value⟩ := field
    by_cases same : key = name <;> simp [set, same, ih]

/-- To write what is there changes nothing. -/
theorem set_of_get? {fields : Fields} {name : String} {value : Value}
    (found : get? fields name = some value) : set fields name value = fields := by
  induction fields with
  | nil => simp at found
  | cons field rest ih =>
    obtain ⟨key, old⟩ := field
    rw [get?_cons] at found
    by_cases same : key = name
    · obtain rfl : old = value := by simpa [same] using found
      simp [set, same]
    · simp [set, same, ih (by simpa [Ne.symm same] using found)]

/-- A write adds its name if no field has it, and changes no other name. -/
theorem mem_names_set_iff {fields : Fields} {name other : String} {new : Value} :
    other ∈ (set fields name new).map Prod.fst ↔ other = name ∨ other ∈ fields.map Prod.fst := by
  induction fields with
  | nil => simp [set]
  | cons field rest ih =>
    obtain ⟨key, value⟩ := field
    by_cases same : key = name
    · simp [set, same]
    · simp only [set, beq_iff_eq, same, if_false, List.map_cons, List.mem_cons, ih]
      exact or_left_comm

/-- Names that are distinct stay so. -/
theorem nodup_set {fields : Fields} (distinct : (fields.map Prod.fst).Nodup) (name : String)
    (new : Value) : ((set fields name new).map Prod.fst).Nodup := by
  induction fields with
  | nil => simp [set]
  | cons field rest ih =>
    obtain ⟨key, value⟩ := field
    obtain ⟨fresh, others⟩ := List.nodup_cons.mp distinct
    by_cases same : key = name
    · simpa [set, same] using distinct
    · simp only [set, beq_iff_eq, same, if_false, List.map_cons]
      refine List.nodup_cons.mpr ⟨fun member => ?_, ih others⟩
      exact (mem_names_set_iff.mp member).elim same fresh

/-- Names that are distinct stay so after a write of several fields. -/
theorem nodup_foldl_set {fields : Fields} (distinct : (fields.map Prod.fst).Nodup)
    (news : Fields) :
    ((news.foldl (fun all (name, value) => set all name value) fields).map Prod.fst).Nodup := by
  induction news generalizing fields with
  | nil => exact distinct
  | cons field rest ih => exact ih (nodup_set distinct _ _)

/-- A name that no field has is not read. -/
theorem get?_eq_none {fields : Fields} {name : String} (fresh : name ∉ fields.map Prod.fst) :
    get? fields name = none := by
  cases found : get? fields name with
  | none => rfl
  | some value => exact (fresh (List.mem_map.mpr ⟨_, mem_of_get? found, rfl⟩)).elim

/-- After a write of several fields of distinct names, a name is read as they have it, and as before
if they do not have it. -/
theorem get?_foldl_set {news fields : Fields} (distinct : (news.map Prod.fst).Nodup)
    (name : String) :
    get? (news.foldl (fun all (name, value) => set all name value) fields) name =
      (get? news name).or (get? fields name) := by
  induction news generalizing fields with
  | nil => rfl
  | cons field rest ih =>
    obtain ⟨key, value⟩ := field
    obtain ⟨fresh, others⟩ := List.nodup_cons.mp distinct
    rw [List.foldl_cons, ih others, get?_cons]
    by_cases same : name = key
    · subst same
      rw [get?_eq_none fresh, get?_set_self, if_pos rfl]
      rfl
    · rw [get?_set_of_ne _ _ same, if_neg same]

/-- The fields that stay when those of one name go are read as before. -/
theorem get?_filter_of_ne (fields : Fields) {name other : String} (distinct : other ≠ name) :
    get? (fields.filter fun (key, _) => key != name) other = get? fields other := by
  induction fields with
  | nil => rfl
  | cons field rest ih =>
    obtain ⟨key, value⟩ := field
    by_cases same : key = name
    · simp [same, get?_cons, distinct, ih]
    · simp [same, get?_cons, ih]

/-- A field that is there is replaced in place, before or after another one is written. -/
theorem set_comm {fields : Fields} {name other : String} (present : (get? fields name).isSome)
    (distinct : name ≠ other) (new value : Value) :
    set (set fields other value) name new = set (set fields name new) other value := by
  induction fields with
  | nil => simp at present
  | cons field rest ih =>
    obtain ⟨key, old⟩ := field
    rw [get?_cons] at present
    by_cases own : key = name
    · subst own
      simp [set, distinct]
    · by_cases theirs : key = other
      · simp [set, theirs, Ne.symm distinct]
      · simp [set, own, theirs, ih (by simpa [Ne.symm own] using present)]

end Fields

namespace Value

/-- A boolean counts as the number one or zero. -/
def number? : Value → Option Number
  | bool b => some (.whole (if b then 1 else 0))
  | int n => some (.whole n)
  | float x => some (.float x)
  | _ => none

/-- Whether a value counts as given: null, false, zero and what is empty do not. -/
def truthy : Value → Bool
  | null => false
  | bool b => b
  | int n => n != 0
  | float x => !x.isZero
  | text s => s != ""
  | list items => !items.isEmpty
  | object fields => !fields.isEmpty

def isNull : Value → Bool
  | null => true
  | _ => false

/-- A value if it counts as given, and otherwise a fallback. -/
def orElse (value fallback : Value) : Value :=
  if value.truthy then value else fallback

def isObject : Value → Bool
  | object _ => true
  | _ => false

/-- Whether two values that hold no others are equal; numbers and booleans by value. -/
def sameScalar : Value → Value → Bool
  | null, null => true
  | text a, text b => a == b
  | a, b =>
    match a.number?, b.number? with
    | some x, some y => x.same y
    | _, _ => false

mutual

/-- Whether two values are equal: numbers and booleans by value, lists item by item, and objects
field by field in any order. -/
def same : Value → Value → Bool
  | list xs, list ys => sameItems xs ys
  | object xs, object ys => sameFields [] xs ys
  | a, b => sameScalar a b

def sameItems : List Value → List Value → Bool
  | [], [] => true
  | x :: xs, y :: ys => same x y && sameItems xs ys
  | _, _ => false

/-- Whether two objects have the same names and equal values under each. A name that was `met`
before is hidden by its first field, and at the end every name of the other object has been met. -/
def sameFields (met : List String) : List (String × Value) → List (String × Value) → Bool
  | [], others => others.all fun (name, _) => met.contains name
  | (name, x) :: rest, others =>
    (met.contains name || match others.lookup name with
      | some y => same x y
      | none => false) && sameFields (name :: met) rest others

end

def isNaN : Value → Bool
  | float .nan => true
  | _ => false

/-- Whether two values compare as equal. As the name of an entry, or inside a list or an object, a
NaN is the same as a NaN, but compared by itself it is equal to nothing. -/
def equals (first second : Value) : Bool :=
  first.same second && !second.isNaN

/-- Whether a value can serve as the name of an entry; lists and objects cannot. -/
def isKey : Value → Bool
  | list _ => false
  | object _ => false
  | _ => true

def asKey (value : Value) : Except Fault Value :=
  if value.isKey then .ok value else .error .wrongType

/-- The fields of an object, to be read by name. -/
def fields : Value → Except Fault Fields
  | object fields => .ok fields
  | _ => .error .lacksOperation

/-- The value of a field of an object, null if there is none. -/
def field (value : Value) (name : String) : Except Fault Value :=
  value.fields.map fun fields => Fields.get fields name

/-- The value of the field that a value names; what is no text names no field. -/
def fieldNamed (value name : Value) : Except Fault Value :=
  match value, name with
  | object fields, text name => .ok (Fields.get fields name)
  | object _, name => name.asKey.map fun _ => null
  | _, _ => .error .lacksOperation

def setField (value : Value) (name : String) (new : Value) : Except Fault Value :=
  match value with
  | object fields => .ok (object (Fields.set fields name new))
  | _ => .error .wrongType

/-- A field that counts as given, and otherwise an object without fields. -/
def fieldOrEmpty (value : Value) (name : String) : Except Fault Value :=
  (value.field name).map (·.orElse (object []))

/-- What going through a value yields: the items of a list, the names of an object's fields and
the characters of a text. -/
def elements : Value → Except Fault (List Value)
  | list items => .ok items
  | object fields => .ok (fields.map fun (name, _) => text name)
  | text s => .ok (s.toList.map fun c => text (String.singleton c))
  | _ => .error .wrongType

/-- The items of a value that counts as given, and none of any other. -/
def givenElements (value : Value) : Except Fault (List Value) :=
  if value.truthy then value.elements else .ok []

end Value

end ManifestOwnership
