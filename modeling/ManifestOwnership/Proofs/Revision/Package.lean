import ManifestOwnership.Proofs.Value.Equality
import ManifestOwnership.Proofs.Manifest.Metadata
import ManifestOwnership.Revision.Package

/-! # Which owner is the package

The package of a revision is found exactly if the revision carries the label, with a value that
counts as given, and an entry of its list of owners has that value as its name. The first such entry
is the package: the entries before it are objects under other names or under none, and what follows
it does not matter at all, not even whether it is an object.
-/

namespace ManifestOwnership

namespace Value

/-- The elements of a given value are objects only if it is a list. -/
theorem eq_list_of_givenElements {value : Value} {items : List Value} {fields : Fields}
    (read : value.givenElements = .ok items) (member : object fields ∈ items) :
    value = list items := by
  unfold givenElements at read
  split_ifs at read
  · cases value with
    | list _ => rw [Except.ok.inj read]
    | object _ =>
      obtain rfl := Except.ok.inj read
      simp at member
    | text _ =>
      obtain rfl := Except.ok.inj read
      simp at member
    | _ => contradiction
  · obtain rfl := Except.ok.inj read
    simp at member

end Value

namespace PackageSearch

variable {settings : Settings} {label revision package : Value} {entries : List Value}
  {reference : OwnerReference}

/-- An entry is an object under the name of a package, or else under another name or none. -/
def Bears (package : Value) (named : Bool) (entry : Value) : Prop :=
  ∃ fields, entry = .object fields ∧ (Fields.get fields "name").equals package = named

/-- A reference is that of the first entry under the name of a package. -/
def IsFirst (package : Value) (entries : List Value) (reference : OwnerReference) : Prop :=
  ∃ front entry back, entries = front ++ entry :: back ∧
    (∀ other ∈ front, Bears package false other) ∧ Bears package true entry ∧
      OwnerReference.ofValue entry = .ok reference

/-- The label of a revision gives the name of a package, and these are the entries of the revision's
list of owners. -/
def Labels (settings : Settings) (label revision package : Value) (entries : List Value) : Prop :=
  ∃ name content metadata labels,
    label.orElse (settings.value .parentPackageLabel) = .text name ∧ revision = .object content ∧
      Fields.get content "metadata" = .object metadata ∧
      Fields.get metadata "labels" = .object labels ∧ Fields.get labels name = package ∧
      package.truthy = true ∧ Fields.get metadata "ownerReferences" = .list entries

theorem firstNamed_cons_of_named {entry : Value} (bears : Bears package true entry)
    (rest : List Value) :
    firstNamed package (entry :: rest) = (OwnerReference.ofValue entry).map some := by
  obtain ⟨fields, rfl, same⟩ := bears
  have read : (Value.object fields).field "name" = .ok (Fields.get fields "name") := rfl
  rw [firstNamed, read, ok_bind, if_pos same]
  rfl

theorem firstNamed_cons_of_unnamed {entry : Value} (bears : Bears package false entry)
    (rest : List Value) : firstNamed package (entry :: rest) = firstNamed package rest := by
  obtain ⟨fields, rfl, differs⟩ := bears
  have read : (Value.object fields).field "name" = .ok (Fields.get fields "name") := rfl
  rw [firstNamed, read, ok_bind, if_neg (by simp [differs])]

/-- A walk goes past an entry only if that is an object. -/
theorem bears_of_firstNamed {entry : Value} {rest : List Value} {found : Option OwnerReference}
    (success : firstNamed package (entry :: rest) = .ok found) :
    ∃ named, Bears package named entry := by
  obtain ⟨_, read, _⟩ := bind_eq_ok_iff.mp success
  obtain ⟨fields, rfl, _⟩ := Value.field_eq_ok_iff.mp read
  exact ⟨_, fields, rfl, rfl⟩

/-- A walk over the entries ends at the first one under the name. -/
theorem firstNamed_eq_some_iff :
    firstNamed package entries = .ok (some reference) ↔ IsFirst package entries reference := by
  constructor
  · intro success
    induction entries with
    | nil => simp [firstNamed] at success
    | cons entry rest ih =>
      obtain ⟨named, bears⟩ := bears_of_firstNamed success
      cases named with
      | true =>
        rw [firstNamed_cons_of_named bears] at success
        obtain ⟨_, read, same⟩ := map_eq_ok_iff.mp success
        obtain rfl := Option.some.inj same
        exact ⟨[], entry, rest, rfl, by simp, bears, read⟩
      | false =>
        rw [firstNamed_cons_of_unnamed bears] at success
        obtain ⟨front, found, back, rfl, others, holds⟩ := ih success
        exact ⟨entry :: front, found, back, rfl, List.forall_mem_cons.mpr ⟨bears, others⟩, holds⟩
  · rintro ⟨front, entry, back, rfl, others, bears, read⟩
    induction front with
    | nil => rw [List.nil_append, firstNamed_cons_of_named bears, read]; rfl
    | cons first rest ih =>
      obtain ⟨here, others⟩ := List.forall_mem_cons.mp others
      rw [List.cons_append, firstNamed_cons_of_unnamed here, ih others]

/-- The first entry is among the entries, and is an object. -/
theorem IsFirst.exists_mem (first : IsFirst package entries reference) :
    ∃ fields, .object fields ∈ entries := by
  obtain ⟨front, entry, back, rfl, _, ⟨fields, rfl, _⟩, _⟩ := first
  exact ⟨fields, by simp⟩

/-- The package is found exactly if the label names it and it is the first owner of that name. -/
theorem run_eq_found_iff : run settings label revision = .ok (.found reference) ↔
    ∃ package entries, Labels settings label revision package entries ∧
      IsFirst package entries reference := by
  constructor
  · intro success
    simp only [run, bind_eq_ok_iff, Value.fieldOrEmpty_eq_ok_iff] at success
    obtain ⟨_, ⟨content, rfl, given⟩, _, ⟨metadata, rfl, carried⟩, package, named,
      success⟩ := success
    split_ifs at success with blank
    · cases success
    have truthy : package.truthy = true := by simpa using blank
    simp only [bind_eq_ok_iff, Value.field_eq_ok_iff] at success
    obtain ⟨_, ⟨_, same, rfl⟩, entries, elements, found, walked, success⟩ := success
    obtain rfl := Value.object.inj same
    cases found with
    | none => cases success
    | some other =>
      obtain rfl := PackageSearch.found.inj (Except.ok.inj success)
      have first := firstNamed_eq_some_iff.mp walked
      have notNull : package ≠ .null := by
        rintro rfl
        contradiction
      obtain ⟨name, labels, key, rfl, chosen⟩ := (Value.fieldNamed_eq_ok_iff notNull).mp named
      -- What stands in for metadata or labels that are missing has no label.
      obtain ⟨_, carried⟩ | ⟨_, empty⟩ := Value.orElse_eq_iff.mp carried
      swap
      · obtain rfl := Value.object.inj empty
        simp at chosen
      obtain ⟨_, given⟩ | ⟨_, empty⟩ := Value.orElse_eq_iff.mp given
      swap
      · obtain rfl := Value.object.inj empty
        simp [Fields.get] at carried
      obtain ⟨fields, member⟩ := first.exists_mem
      refine ⟨package, entries, ⟨name, content, metadata, labels, key, rfl, given, carried, ?_,
        truthy, Value.eq_list_of_givenElements elements member⟩, first⟩
      rw [Fields.get, chosen, Option.getD_some]
  · rintro ⟨package, entries, ⟨name, content, metadata, labels, key, rfl, given, carried, named,
      truthy, listed⟩, first⟩
    have read : (Value.object content).fieldOrEmpty "metadata" = .ok (.object metadata) :=
      Value.fieldOrEmpty_eq_ok_iff.mpr ⟨content, rfl, by rw [given, Value.orElse_object]⟩
    have labelled : (Value.object metadata).fieldOrEmpty "labels" = .ok (.object labels) :=
      Value.fieldOrEmpty_eq_ok_iff.mpr ⟨metadata, rfl, by rw [carried, Value.orElse_object]⟩
    have chosen : (Value.object labels).fieldNamed (.text name) = .ok package := by
      rw [← named]
      rfl
    have owners : (Value.object metadata).field "ownerReferences" = .ok (.list entries) :=
      Value.field_eq_ok_iff.mpr ⟨metadata, rfl, listed⟩
    have elements : (Value.list entries).givenElements = .ok entries := by
      cases entries <;> rfl
    simp only [run, key, read, labelled, chosen, owners, elements, ok_bind, truthy,
      firstNamed_eq_some_iff.mpr first, Bool.not_true, Bool.false_eq_true, if_false]
    rfl

end PackageSearch

end ManifestOwnership
