import ManifestOwnership.OwnerReference
import Mathlib.Data.List.Forall2

/-! # Equality of values is an equivalence

Values are compared by what they denote: numbers and booleans by their place on the line, and
objects as maps from names to values. The comparison is reflexive, symmetric and transitive on all
values, so that owners and stored objects fall into classes by their keys.
-/

namespace ManifestOwnership

namespace Number

private theorem unitsPerOne_ne_zero : (Binary64.unitsPerOne : Int) ≠ 0 := by
  have positive := Binary64.unitsPerOne_pos
  omega

/-- Numbers are equal exactly if they lie at the same place. -/
theorem same_iff (x y : Number) : x.same y = true ↔ x.place? = y.place? := by
  cases x with
  | float x => simp [same]
  | whole m =>
    cases y with
    | float y => simp [same]
    | whole n =>
      simp only [same, place?, beq_iff_eq, Option.some.injEq, Place.at.injEq,
        Int.mul_eq_mul_right_iff unitsPerOne_ne_zero]

end Number

namespace Value

/-- Values that hold no others are equal if both are null, the same text or the same number. -/
theorem sameScalar_iff (a b : Value) : sameScalar a b = true ↔
    (a = null ∧ b = null) ∨ (∃ s, a = text s ∧ b = text s) ∨
      ∃ x y, a.number? = some x ∧ b.number? = some y ∧ x.same y = true := by
  cases a with
  | text s =>
    cases b with
    | text t =>
      have comm : s = t ↔ t = s := eq_comm
      simp [sameScalar, number?, comm]
    | _ => simp [sameScalar, number?]
  | _ => cases b <;> simp [sameScalar, number?]

theorem sameScalar_symm {a b : Value} (equal : sameScalar a b = true) :
    sameScalar b a = true := by
  rw [sameScalar_iff] at equal ⊢
  rcases equal with ⟨rfl, rfl⟩ | ⟨s, rfl, rfl⟩ | ⟨x, y, atX, atY, places⟩
  · exact .inl ⟨rfl, rfl⟩
  · exact .inr (.inl ⟨s, rfl, rfl⟩)
  · rw [Number.same_iff] at places
    exact .inr (.inr ⟨y, x, atY, atX, (Number.same_iff y x).mpr places.symm⟩)

theorem sameScalar_trans {a b c : Value} (first : sameScalar a b = true)
    (second : sameScalar b c = true) : sameScalar a c = true := by
  rw [sameScalar_iff] at first second ⊢
  rcases first with ⟨rfl, rfl⟩ | ⟨s, rfl, rfl⟩ | ⟨x, y, atX, atY, places⟩
  · simpa [number?] using second
  · simpa [number?] using second
  · rcases second with ⟨rfl, rfl⟩ | ⟨s, rfl, rfl⟩ | ⟨y', z, atY', atZ, places'⟩
    · simp [number?] at atY
    · simp [number?] at atY
    · obtain rfl : y = y' := Option.some.inj (atY.symm.trans atY')
      rw [Number.same_iff] at places places'
      exact .inr (.inr ⟨x, z, atX, atZ, (Number.same_iff x z).mpr (places.trans places')⟩)

/-- The comparison of two objects field by field, the names met before left aside. -/
theorem sameFields_iff (met : List String) (xs ys : Fields) : sameFields met xs ys = true ↔
    ∀ name, name ∉ met →
      Option.Rel (fun x y => same x y = true) (Fields.get? xs name) (Fields.get? ys name) := by
  induction xs generalizing met with
  | nil =>
    simp only [sameFields, List.all_eq_true, List.contains_iff_mem, Fields.get?_nil]
    constructor
    · intro covered name fresh
      cases found : Fields.get? ys name with
      | none => exact .none
      | some y => exact (fresh (covered _ (Fields.mem_of_get? found))).elim
    · intro related field member
      by_contra fresh
      obtain ⟨y, found⟩ := Fields.exists_get?_of_mem member
      have here := related field.1 fresh
      rw [found] at here
      cases here
  | cons first rest ih =>
    obtain ⟨key, x⟩ := first
    simp only [sameFields, Bool.and_eq_true, Bool.or_eq_true, List.contains_iff_mem, ih]
    constructor
    · rintro ⟨here, others⟩ name fresh
      rw [Fields.get?_cons]
      split_ifs with same
      · subst same
        have here := here.resolve_left fresh
        rw [Fields.get?]
        cases found : ys.lookup name with
        | none => simp [found] at here
        | some y => exact .some (by simpa [found] using here)
      · exact others name (by simp [same, fresh])
    · intro related
      constructor
      · by_cases seen : key ∈ met
        · exact .inl seen
        · have here := related key seen
          rw [Fields.get?_cons, if_pos rfl, Fields.get?] at here
          refine .inr ?_
          cases found : ys.lookup key with
          | none => simp [found] at here
          | some y => simpa [found] using here
      · intro name fresh
        simp only [List.mem_cons, not_or] at fresh
        have here := related name fresh.2
        rwa [Fields.get?_cons, if_neg fresh.1] at here

/-- Objects are compared as maps from names to values. -/
theorem same_object_iff (xs ys : Fields) : same (object xs) (object ys) = true ↔
    ∀ name, Option.Rel (fun x y => same x y = true) (Fields.get? xs name)
      (Fields.get? ys name) := by
  simp [same, sameFields_iff]

/-- Induction on what a value is made of: a list from its items, an object from what is read under
its names, and every other value by itself. -/
@[elab_as_elim]
theorem inductionOn {motive : Value → Prop} (value : Value)
    (key : ∀ value, value.isKey = true → motive value)
    (list : ∀ items, (∀ item ∈ items, motive item) → motive (list items))
    (object : ∀ fields : Fields,
      (∀ name value, Fields.get? fields name = some value → motive value) →
        motive (object fields)) : motive value := by
  refine @Value.rec motive (fun items => ∀ item ∈ items, motive item)
    (fun fields => ∀ field ∈ fields, motive field.2) (fun field => motive field.2)
    (key _ rfl) (fun _ => key _ rfl) (fun _ => key _ rfl) (fun _ => key _ rfl)
    (fun _ => key _ rfl) list ?_ ?_ ?_ ?_ ?_ ?_ value
  · intro fields each
    exact object fields fun _ _ found => each _ (Fields.mem_of_get? found)
  · simp
  · intro first rest here others
    simpa using ⟨here, others⟩
  · simp
  · rintro ⟨name, first⟩ rest here others
    simpa using ⟨here, fun other value member => others (other, value) member⟩
  · intro name value here
    exact here

/-- What is no list and no object is compared as such. -/
theorem same_of_isKey {a : Value} (key : a.isKey = true) (b : Value) :
    same a b = sameScalar a b := by
  cases a <;> cases b <;> first | rfl | contradiction

/-- A text is equal to itself alone. -/
theorem same_text_iff {s : String} {value : Value} :
    same (text s) value = true ↔ value = text s := by
  rw [same_of_isKey rfl, sameScalar_iff]
  constructor
  · rintro (⟨⟨⟩, _⟩ | ⟨_, ⟨⟩, same⟩ | ⟨_, _, number, _⟩)
    · exact same
    · simp [number?] at number
  · rintro rfl
    exact .inr (.inl ⟨s, rfl, rfl⟩)

theorem isKey_of_same {a b : Value} (equal : same a b = true) (key : a.isKey = true) :
    b.isKey = true := by
  rw [same_of_isKey key, sameScalar_iff] at equal
  rcases equal with ⟨_, rfl⟩ | ⟨s, _, rfl⟩ | ⟨x, y, _, atY, _⟩
  · rfl
  · rfl
  · cases b <;> first | rfl | contradiction

theorem sameItems_iff (xs ys : List Value) :
    sameItems xs ys = true ↔ List.Forall₂ (fun x y => same x y = true) xs ys := by
  induction xs generalizing ys with
  | nil => cases ys <;> simp [sameItems]
  | cons x xs ih => cases ys <;> simp [sameItems, ih]

/-- Every value is equal to itself. -/
@[simp] theorem same_refl (value : Value) : same value value = true := by
  induction value using inductionOn with
  | key value key =>
    rw [same_of_isKey key, sameScalar_iff]
    cases value <;> simp_all [number?, isKey, Number.same_iff]
  | list items ih =>
    rw [same, sameItems_iff, List.forall₂_same]
    exact ih
  | object fields ih =>
    rw [same_object_iff]
    intro name
    cases found : Fields.get? fields name with
    | none => exact .none
    | some value => exact .some (ih name value found)

/-- Equality of values does not depend on which of the two comes first. -/
theorem same_symm {a b : Value} (equal : same a b = true) : same b a = true := by
  induction a using inductionOn generalizing b with
  | key a key =>
    have key' := isKey_of_same equal key
    rw [same_of_isKey key] at equal
    rw [same_of_isKey key']
    exact sameScalar_symm equal
  | list xs ih =>
    cases b with
    | list ys =>
      rw [same, sameItems_iff] at equal ⊢
      induction equal with
      | nil => exact .nil
      | cons here _ tail =>
        exact .cons (ih _ (List.mem_cons_self ..) here)
          (tail fun item member => ih item (List.mem_cons_of_mem _ member))
    | _ => simp [same, sameScalar, number?] at equal
  | object xs ih =>
    cases b with
    | object ys =>
      rw [same_object_iff] at equal ⊢
      intro name
      have here := equal name
      generalize atX : Fields.get? xs name = x, Fields.get? ys name = y at here
      cases here with
      | none => exact .none
      | some here => exact .some (ih name _ atX here)
    | _ => simp [same, sameScalar, number?] at equal

/-- What is equal to equal values is equal. -/
theorem same_trans {a b c : Value} (first : same a b = true) (second : same b c = true) :
    same a c = true := by
  induction a using inductionOn generalizing b c with
  | key a key =>
    have key' := isKey_of_same first key
    rw [same_of_isKey key] at first ⊢
    rw [same_of_isKey key'] at second
    exact sameScalar_trans first second
  | list xs ih =>
    cases b with
    | list ys =>
      cases c with
      | list zs =>
        rw [same, sameItems_iff] at first second ⊢
        induction first generalizing zs with
        | nil => exact second
        | cons here _ tail =>
          cases second with
          | cons there rest =>
            exact .cons (ih _ (List.mem_cons_self ..) here there)
              (tail (fun item member => ih item (List.mem_cons_of_mem _ member)) _ rest)
      | _ => simp [same, sameScalar, number?] at second
    | _ => simp [same, sameScalar, number?] at first
  | object xs ih =>
    cases b with
    | object ys =>
      cases c with
      | object zs =>
        rw [same_object_iff] at first second ⊢
        intro name
        have here := first name
        have there := second name
        generalize atX : Fields.get? xs name = x, Fields.get? ys name = y,
          Fields.get? zs name = z at here there
        cases here with
        | none =>
          cases there
          exact .none
        | some here =>
          cases there with
          | some there => exact .some (ih name _ atX here there)
      | _ => simp [same, sameScalar, number?] at second
    | _ => simp [same, sameScalar, number?] at first

theorem same_comm (a b : Value) : same a b = same b a :=
  Bool.eq_iff_iff.mpr ⟨same_symm, same_symm⟩

theorem same_congr_left {a b : Value} (equal : same a b = true) (c : Value) :
    same a c = same b c :=
  Bool.eq_iff_iff.mpr ⟨same_trans (same_symm equal), same_trans equal⟩

theorem same_congr_right {b c : Value} (equal : same b c = true) (a : Value) :
    same a b = same a c := by
  rw [same_comm a b, same_comm a c, same_congr_left equal]

/-- A value that is given up for null is no NaN. -/
theorem isNaN_orElse_null (value : Value) : (value.orElse null).isNaN = value.isNaN := by
  unfold orElse
  split_ifs with given
  · rfl
  · cases value with
    | float x => cases x <;> first | rfl | exact absurd rfl given
    | _ => rfl

end Value

namespace OwnerReference

/-- References have the same key exactly if they agree in each part of it. -/
theorem sameKey_iff (first second : OwnerReference) : first.sameKey second = true ↔
    first.apiVersion.same second.apiVersion = true ∧ first.kind.same second.kind = true ∧
      first.name.same second.name = true ∧ first.uid.same second.uid = true := by
  simp [sameKey, key, Value.sameItems]

@[simp] theorem sameKey_refl (ref : OwnerReference) : ref.sameKey ref = true := by
  simp [sameKey_iff]

theorem sameKey_symm {first second : OwnerReference} (same : first.sameKey second = true) :
    second.sameKey first = true := by
  rw [sameKey_iff] at same ⊢
  obtain ⟨apiVersion, kind, name, uid⟩ := same
  exact ⟨Value.same_symm apiVersion, Value.same_symm kind, Value.same_symm name,
    Value.same_symm uid⟩

theorem sameKey_comm (first second : OwnerReference) :
    first.sameKey second = second.sameKey first :=
  Bool.eq_iff_iff.mpr ⟨sameKey_symm, sameKey_symm⟩

theorem sameKey_trans {first second third : OwnerReference}
    (left : first.sameKey second = true) (right : second.sameKey third = true) :
    first.sameKey third = true := by
  rw [sameKey_iff] at left right ⊢
  exact ⟨Value.same_trans left.1 right.1, Value.same_trans left.2.1 right.2.1,
    Value.same_trans left.2.2.1 right.2.2.1, Value.same_trans left.2.2.2 right.2.2.2⟩

end OwnerReference

end ManifestOwnership
