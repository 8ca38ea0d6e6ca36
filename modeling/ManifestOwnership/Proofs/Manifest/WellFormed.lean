import ManifestOwnership.Proofs.Establish.Preparation

/-! # Well-formed manifests

A manifest is well formed if it is typed and named by texts, lists its owners as objects, and, where
it has webhooks, keeps them in objects down to the service. Nothing is said of the other fields. On
such manifests all work of a pass has a result: they can be told apart, given their final names and
given a bundle, and renaming leaves them well formed.
-/

namespace ManifestOwnership

variable {definition parent : Value} {fields : Fields}

def Value.Textual (value : Value) : Prop :=
  value = .null ∨ ∃ s, value = .text s

theorem Value.Textual.asKey_eq {value : Value} (textual : value.Textual) :
    value.asKey = .ok value := by
  obtain rfl | ⟨s, rfl⟩ := textual <;> rfl

/-- Whether a manifest is of one of some kinds in an API group. -/
def Webhook.OfType (kinds : List String) (group : String) (definition : Value) : Prop :=
  ∃ kind ∈ kinds, definition.get? "kind" = some (.text kind) ∧ ∃ version,
    definition.get? "apiVersion" = some (.text version) ∧
      Manifest.groupOf (.text version) = .ok group

namespace Manifest

/-- Owners are written as a list of objects that point at things by texts, or not at all. -/
def OwnersWritten (listed : Value) : Prop :=
  listed = .null ∨ ∃ entries, listed = .list entries ∧ ∀ entry ∈ entries, ∃ fields,
    entry = .object fields ∧
      ∀ part ∈ ["apiVersion", "kind", "name", "uid"], (Fields.get fields part).Textual

/-- A manifest as the library expects it. -/
structure WellFormed (definition : Value) : Prop where
  apiVersion : ∃ s, definition.get? "apiVersion" = some (.text s)
  kind : ∃ s, definition.get? "kind" = some (.text s)
  metadata : definition.Open ["metadata"]
  name : (Fields.get definition.metadata "name").Textual
  scope : (Fields.get definition.metadata "namespace").Textual
  owners : OwnersWritten (Fields.get definition.metadata "ownerReferences")
  webhooks : Webhook.OfType Webhook.configurationKinds Webhook.configurationGroup definition →
    Webhook.Injection.Webhooked definition
  conversion : Webhook.OfType [Webhook.definitionKind] Webhook.definitionGroup definition →
    definition.Open ["spec", "conversion", "webhook", "clientConfig", "service"]

/-- Owners that are written can be read. -/
theorem OwnersWritten.exists_owners {listed : Value} (written : OwnersWritten listed) :
    ∃ refs, ownersListed listed = .ok refs := by
  obtain rfl | ⟨entries, rfl, objects⟩ := written
  · exact ⟨[], rfl⟩
  · have elements : (Value.list entries).givenElements = .ok entries := by
      cases entries <;> rfl
    have read : ∀ entry ∈ entries, ∃ ref, OwnerReference.ofValue entry = .ok ref ∧ True := by
      intro entry member
      obtain ⟨fields, rfl, _⟩ := objects entry member
      exact ⟨_, rfl, trivial⟩
    obtain ⟨refs, all, _⟩ := exists_mapM read
    exact ⟨refs, by rw [ownersListed, elements, ok_bind, all]⟩

private theorem metadata_of_get {content : Fields}
    (given : Fields.get content "metadata" = .object fields) :
    Value.metadata (.object content) = fields := by
  cases present : Fields.get? content "metadata" with
  | none => simp [Fields.get, present] at given
  | some value =>
    obtain rfl : value = .object fields := by simpa [Fields.get, present] using given
    simp [Value.metadata, present]

/-- A manifest of a kind without webhooks is well formed if its metadata is. -/
theorem WellFormed.ordinary {content : Fields} {version kind : String}
    (atVersion : Fields.get? content "apiVersion" = some (.text version))
    (atKind : Fields.get? content "kind" = some (.text kind))
    (given : Fields.get content "metadata" = .object fields)
    (name : (Fields.get fields "name").Textual) (scope : (Fields.get fields "namespace").Textual)
    (owners : OwnersWritten (Fields.get fields "ownerReferences"))
    (configures : kind ∉ Webhook.configurationKinds) (defines : kind ≠ Webhook.definitionKind) :
    WellFormed (.object content) := by
  have metadata := metadata_of_get given
  refine ⟨⟨version, atVersion⟩, ⟨kind, atKind⟩, ⟨content, rfl, ?_⟩, ?_, ?_, ?_, ?_, ?_⟩
  · exact Fields.open_of_get given
  · rwa [metadata]
  · rwa [metadata]
  · rwa [metadata]
  · rintro ⟨kind', listed, atKind', _⟩
    obtain rfl : kind = kind' := by simpa using atKind.symm.trans atKind'
    exact absurd listed configures
  · rintro ⟨kind', listed, atKind', _⟩
    obtain rfl : kind = kind' := by simpa using atKind.symm.trans atKind'
    exact absurd (List.mem_singleton.mp listed) defines

namespace WellFormed

variable (wellFormed : WellFormed definition)

include wellFormed

/-- The metadata of a well-formed manifest is read as an object. -/
theorem fieldOrEmpty_metadata :
    definition.fieldOrEmpty "metadata" = .ok (.object definition.metadata) := by
  obtain ⟨content, rfl, free⟩ := wellFormed.metadata
  obtain absent | ⟨fields, found, _⟩ := Fields.open_cons_iff.mp free
  · have none : Value.metadata (.object content) = [] := by
      cases present : Fields.get? content "metadata" with
      | none => simp [Value.metadata, present]
      | some value =>
        obtain rfl : value = .null := by simpa [Fields.get, present] using absent
        simp [Value.metadata, present]
    simp [none, absent, Value.orElse, Value.truthy]
  · simp [metadata_of_get found, found]

/-- The owners of a well-formed manifest can be read. -/
theorem exists_owners : ∃ refs, Manifest.owners definition = .ok refs := by
  obtain ⟨refs, read⟩ := wellFormed.owners.exists_owners
  refine ⟨refs, ?_⟩
  rw [Manifest.owners, wellFormed.fieldOrEmpty_metadata]
  exact read

/-- A well-formed manifest has an identity. -/
theorem exists_key : ∃ key, Manifest.key definition = .ok key := by
  obtain ⟨kind, atKind⟩ := wellFormed.kind
  obtain ⟨version, atVersion⟩ := wellFormed.apiVersion
  have scope : (if (Fields.get definition.metadata "namespace").truthy then
      Fields.get definition.metadata "namespace" else .null).asKey = .ok
        (if (Fields.get definition.metadata "namespace").truthy then
          Fields.get definition.metadata "namespace" else .null) := by
    split_ifs
    · exact wellFormed.scope.asKey_eq
    · rfl
  rw [Manifest.key, Store.ObjectKey.of, atKind, atVersion, scope, wellFormed.name.asKey_eq]
  exact ⟨_, rfl⟩

/-- Other metadata leaves a manifest well formed if its parts are. -/
theorem withMetadata (fields : Fields) (name : (Fields.get fields "name").Textual)
    (scope : (Fields.get fields "namespace").Textual)
    (owners : OwnersWritten (Fields.get fields "ownerReferences")) :
    WellFormed (definition.withMetadata fields) ∧ Formed (definition.withMetadata fields) := by
  obtain ⟨content, rfl, free⟩ := wellFormed.metadata
  have written : Value.metadata (Value.withMetadata (.object content) fields) = fields := by
    simp [Value.metadata, Value.withMetadata]
  have kept {part : String} (other : part ≠ "metadata") :
      (Value.withMetadata (.object content) fields).get? part = (Value.object content).get? part :=
    get?_withMetadata_of_ne _ _ other
  have ofType {kinds : List String} {group : String}
      (typed : Webhook.OfType kinds group (Value.withMetadata (.object content) fields)) :
      Webhook.OfType kinds group (.object content) := by
    rw [Webhook.OfType, kept (by decide), kept (by decide)] at typed
    exact typed
  refine ⟨⟨?_, ?_, ⟨_, rfl, ?_⟩, ?_, ?_, ?_, ?_, ?_⟩, ⟨_, fields, rfl, Fields.get?_set_self _ _ _⟩⟩
  · rw [kept (by decide)]
    exact wellFormed.apiVersion
  · rw [kept (by decide)]
    exact wellFormed.kind
  · exact Fields.open_of_get (Fields.get_set_self _ _ _)
  · rwa [written]
  · rwa [written]
  · rwa [written]
  · intro typed
    rw [Webhook.Injection.Webhooked, kept (by decide)]
    exact wellFormed.webhooks (ofType typed)
  · intro typed
    exact (Value.open_congr (Fields.get?_set_of_ne _ _ (by decide))).mpr
      (wellFormed.conversion (ofType typed))

end WellFormed

end Manifest

namespace Webhook

private theorem isText_text (kind s : String) : isText (.text kind) s = (kind == s) := rfl

private theorem groupOf_text (version : String) :
    ∃ group, Manifest.groupOf (.text version) = .ok group := by
  unfold Manifest.groupOf
  split_ifs <;> exact ⟨_, rfl⟩

private theorem field_of_get? {name s : String} (found : definition.get? name = some (.text s)) :
    definition.field name = .ok (.text s) := by
  cases definition with
  | object content =>
    replace found : Fields.get? content name = some (.text s) := found
    simp [Fields.get, found]
  | _ => contradiction

/-- A well-formed manifest is told to be a webhook configuration or not to be one. -/
theorem exists_isConfiguration (wellFormed : Manifest.WellFormed definition) :
    ∃ configuration, isConfiguration definition = .ok configuration ∧
      (configuration = true → OfType configurationKinds configurationGroup definition) := by
  obtain ⟨kind, atKind⟩ := wellFormed.kind
  obtain ⟨version, atVersion⟩ := wellFormed.apiVersion
  obtain ⟨group, grouped⟩ := groupOf_text version
  rw [isConfiguration, field_of_get? atKind, field_of_get? atVersion, ok_bind, ok_bind, grouped]
  split_ifs with listed
  · refine ⟨_, rfl, fun same => ?_⟩
    obtain ⟨listedKind, member, equal⟩ := List.any_eq_true.mp listed
    rw [isText_text, beq_iff_eq] at equal
    rw [beq_iff_eq] at same
    exact ⟨kind, equal ▸ member, atKind, version, atVersion, same ▸ grouped⟩
  · exact ⟨false, rfl, by simp⟩

/-- A well-formed manifest is told to need a conversion webhook or not to need one. -/
theorem exists_needsConversion (wellFormed : Manifest.WellFormed definition) :
    ∃ needs, needsConversion definition = .ok needs ∧
      (needs = true → OfType [definitionKind] definitionGroup definition) := by
  obtain ⟨kind, atKind⟩ := wellFormed.kind
  obtain ⟨version, atVersion⟩ := wellFormed.apiVersion
  obtain ⟨group, grouped⟩ := groupOf_text version
  rw [needsConversion, field_of_get? atKind, field_of_get? atVersion, ok_bind, ok_bind, grouped,
    ok_bind, isText_text]
  by_cases typed : kind = definitionKind ∧ group = definitionGroup
  · obtain ⟨rfl, rfl⟩ := typed
    have ofType : OfType [definitionKind] definitionGroup definition :=
      ⟨_, List.mem_singleton_self _, atKind, version, atVersion, grouped⟩
    have free : definition.Open strategyPath.parents := by
      obtain ⟨fields, rfl, free⟩ := wellFormed.conversion ofType
      exact ⟨fields, rfl, Fields.Open.of_append ["webhook", "clientConfig", "service"] free⟩
    obtain ⟨strategy, read⟩ := free.exists_atOr .null
    rw [read]
    exact ⟨_, rfl, fun _ => ofType⟩
  · refine ⟨false, ?_, by simp⟩
    by_cases sameKind : kind = definitionKind
    · have other : group ≠ definitionGroup := fun same => typed ⟨sameKind, same⟩
      simp [sameKind, other]
    · simp [sameKind]

/-- A bundle can be given to a well-formed manifest. -/
theorem exists_inject (service : Service) (bundle : Option CABundle)
    (wellFormed : Manifest.WellFormed definition) :
    ∃ changed, service.inject bundle definition = .ok changed := by
  cases bundle with
  | none => exact ⟨definition, rfl⟩
  | some bundle =>
    obtain ⟨configuration, classified, ofType⟩ := exists_isConfiguration wellFormed
    rw [Service.inject, Injection.run, classified]
    cases configuration with
    | true =>
      obtain ⟨fields, rfl, _⟩ := wellFormed.metadata
      exact Injection.exists_intoConfiguration _ service (wellFormed.webhooks (ofType rfl))
    | false =>
      obtain ⟨needs, judged, ofType⟩ := exists_needsConversion wellFormed
      simp only [judged]
      cases needs with
      | true => exact Injection.exists_intoConversion _ service (wellFormed.conversion (ofType rfl))
      | false => exact ⟨definition, rfl⟩

end Webhook

/-! ## The revision -/

/-- A manifest of a revision as the library expects it. -/
structure Revision.WellFormed (manifest : Value) : Prop extends Manifest.WellFormed manifest where
  labels : Fields.Open manifest.metadata ["labels"]
  labelled : ∀ labels name value, Fields.get manifest.metadata "labels" = .object labels →
    Fields.get? labels name = some value → ∃ s, value = .text s
  spec : manifest.Open ["spec"]
  secretName : ∀ name, manifest.atOr Revision.secretNamePath .null = .ok name → name.Textual

namespace Revision.WellFormed

variable {manifest : Value} (wellFormed : Revision.WellFormed manifest)

include wellFormed

/-- A well-formed manifest describes a revision. -/
theorem exists_ofManifest :
    ∃ revision, Revision.ofManifest manifest = .ok revision ∧ revision.definition = manifest := by
  have read := wellFormed.fieldOrEmpty_metadata
  obtain ⟨content, rfl, _⟩ := wellFormed.metadata
  rw [Revision.ofManifest, read]
  exact ⟨_, rfl, rfl⟩

end Revision.WellFormed

namespace PackageSearch

private theorem exists_firstNamed (package : Value) {entries : List Value}
    (written : ∀ entry ∈ entries, ∃ fields, entry = .object fields ∧
      ∀ part ∈ ["apiVersion", "kind", "name", "uid"], (Fields.get fields part).Textual) :
    ∃ found, firstNamed package entries = .ok found ∧
      ∀ reference, found = some reference → ∃ kind, reference.kind = .text kind := by
  induction entries with
  | nil => exact ⟨none, rfl, by simp⟩
  | cons entry rest ih =>
    obtain ⟨⟨fields, rfl, textual⟩, others⟩ := List.forall_mem_cons.mp written
    have read : (Value.object fields).field "name" = .ok (Fields.get fields "name") := rfl
    rw [firstNamed, read, ok_bind]
    split_ifs with same
    · refine ⟨_, rfl, ?_⟩
      rintro _ ⟨⟩
      obtain null | ⟨kind, found⟩ := textual "kind" (by simp)
      · exact ⟨"", by simp [null, Value.orElse, Value.truthy]⟩
      · refine ⟨kind, ?_⟩
        by_cases empty : kind = "" <;> simp [found, Value.orElse, Value.truthy, empty]
    · exact ih others

/-- The package of a well-formed revision can be searched, and is typed by a text if it is found. -/
theorem exists_run {settings : Settings} {label manifest : Value}
    (wellFormed : Revision.WellFormed manifest)
    (hashable : (label.orElse (settings.value .parentPackageLabel)).isKey = true) :
    ∃ search, run settings label manifest = .ok search ∧
      ∀ package, search = .found package → ∃ kind, package.kind = .text kind := by
  generalize named : label.orElse (settings.value .parentPackageLabel) = name at hashable
  obtain ⟨labels, read⟩ : ∃ labels, (Value.object manifest.metadata).fieldOrEmpty "labels" =
      .ok (.object labels) := by
    obtain absent | ⟨labels, found, _⟩ := Fields.open_cons_iff.mp wellFormed.labels
    · exact ⟨[], by simp [absent, Value.orElse, Value.truthy]⟩
    · exact ⟨labels, by simp [found]⟩
  obtain ⟨package, label⟩ : ∃ package, (Value.object labels).fieldNamed name = .ok package := by
    cases name with
    | list items => contradiction
    | object fields => contradiction
    | text s => exact ⟨_, rfl⟩
    | _ => exact ⟨.null, rfl⟩
  obtain ⟨entries, listed, written⟩ : ∃ entries,
      (Fields.get manifest.metadata "ownerReferences").givenElements = .ok entries ∧
        ∀ entry ∈ entries, ∃ fields, entry = .object fields ∧
          ∀ part ∈ ["apiVersion", "kind", "name", "uid"], (Fields.get fields part).Textual := by
    obtain absent | ⟨entries, found, written⟩ := wellFormed.owners
    · exact ⟨[], by rw [absent]; rfl, by simp⟩
    · refine ⟨entries, ?_, written⟩
      rw [found]
      cases entries <;> rfl
  have owners : (Value.object manifest.metadata).field "ownerReferences" =
      .ok (Fields.get manifest.metadata "ownerReferences") := rfl
  simp only [run, wellFormed.fieldOrEmpty_metadata, read, label, ok_bind, named]
  split_ifs
  · exact ⟨_, rfl, by simp⟩
  · obtain ⟨found, searched, typed⟩ := exists_firstNamed package written
    rw [owners, ok_bind, listed, ok_bind, searched, ok_bind]
    cases found with
    | none => exact ⟨_, rfl, by simp⟩
    | some reference =>
      refine ⟨_, rfl, ?_⟩
      rintro _ ⟨⟩
      exact typed reference rfl

end PackageSearch

/-! ## The desired form -/

namespace Webhook

/-- A well-formed manifest of a well-formed revision gets a name, and that is null or a text. -/
theorem exists_naming {settings : Settings} (lead : Value) {label : Value}
    (wellFormed : Manifest.WellFormed definition) (parental : Revision.WellFormed parent)
    (hashable : (label.orElse (settings.value .parentPackageLabel)).isKey = true) :
    ∃ naming, Naming.run settings lead label definition parent = .ok naming ∧
      naming.name.Textual := by
  have named : (Value.object definition.metadata).field "name" =
      .ok (Fields.get definition.metadata "name") := rfl
  obtain ⟨configuration, classified, _⟩ := exists_isConfiguration wellFormed
  obtain ⟨search, searched, typed⟩ := PackageSearch.exists_run parental hashable
  simp only [Naming.run, wellFormed.fieldOrEmpty_metadata, ok_bind, named, classified]
  cases configuration with
  | false => exact ⟨_, rfl, wellFormed.name⟩
  | true =>
    simp only [Bool.not_true, Bool.false_eq_true, if_false, searched, ok_bind]
    cases search with
    | unlabelled label => exact ⟨_, rfl, wellFormed.name⟩
    | unmatched package => exact ⟨_, rfl, wellFormed.name⟩
    | found package =>
      obtain ⟨kind, typed⟩ := typed package rfl
      simp only [Naming.build, typed]
      exact ⟨_, rfl, .inr ⟨_, rfl⟩⟩

end Webhook

/-- A well-formed manifest is well formed with metadata in place. -/
theorem Pass.exists_withMetadata (wellFormed : Manifest.WellFormed definition) :
    ∃ desired, Pass.withMetadata definition = .ok desired ∧ Manifest.WellFormed desired ∧
      Manifest.Formed desired := by
  obtain ⟨content, rfl, free⟩ := wellFormed.metadata
  have read : (Value.object content).field "metadata" = .ok (Fields.get content "metadata") := rfl
  rw [Pass.withMetadata, read, ok_bind]
  obtain absent | ⟨fields, found, _⟩ := Fields.open_cons_iff.mp free
  · rw [absent]
    have null : Value.Textual .null := .inl rfl
    exact ⟨_, rfl, wellFormed.withMetadata [] null null (.inl rfl)⟩
  · rw [found]
    exact ⟨_, rfl, wellFormed, Manifest.formed_iff_field.mpr ⟨fields, by rw [read, found]⟩⟩

namespace Establisher

/-- A well-formed manifest is well formed under its final name. -/
theorem exists_renamed (establisher : Establisher) (settings : Settings) (revision : Revision)
    (wellFormed : Manifest.WellFormed definition)
    (parental : Revision.WellFormed revision.definition)
    (hashable : (establisher.label.orElse (settings.value .parentPackageLabel)).isKey = true) :
    ∃ renamed, establisher.renamed settings revision definition = .ok renamed ∧
      Manifest.WellFormed renamed ∧ Manifest.Formed renamed := by
  obtain ⟨desired, completed, wellFormed', formed⟩ := Pass.exists_withMetadata wellFormed
  obtain ⟨configuration, classified, _⟩ := Webhook.exists_isConfiguration wellFormed'
  obtain ⟨naming, named, textual⟩ :=
    Webhook.exists_naming establisher.lead wellFormed' parental hashable
  simp only [renamed, completed, ok_bind, classified]
  cases configuration with
  | false => exact ⟨desired, rfl, wellFormed', formed⟩
  | true =>
    have other {part : String} (distinct : part ≠ "name") :
        Fields.get (Fields.set desired.metadata "name" naming.name) part =
          Fields.get desired.metadata part := Fields.get_set_of_ne _ _ distinct
    refine ⟨desired.withMetadata (Fields.set desired.metadata "name" naming.name), ?_,
      wellFormed'.withMetadata _ ?_ ?_ ?_⟩
    · simp only [if_true, named, ok_bind, formed.field_metadata, Value.setField]
      exact formed.setField_metadata _
    · rwa [Fields.get_set_self]
    · rw [other (by decide)]
      exact wellFormed'.scope
    · rw [other (by decide)]
      exact wellFormed'.owners

end Establisher

end ManifestOwnership
