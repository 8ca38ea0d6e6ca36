import ManifestOwnership.Proofs.Store.Course
import ManifestOwnership.Proofs.Establish.ControlPass

/-! # Declared and final identities

A package tells its objects apart by the identities it declares, and establishing them keeps them
apart but for one case. Webhook configurations are named after the package of the revision once it
is found, whatever names they declare. So two of them that differ in nothing but the name have one
final identity, and the later one takes the place of the earlier one.
-/

namespace ManifestOwnership

open Store Interaction

/-- A value that can be part of an identity enters it as it is. -/
theorem Value.eq_of_asKey {value part : Value} (success : value.asKey = .ok part) :
    part = value := by
  unfold asKey at success
  split_ifs at success
  exact (Except.ok.inj success).symm

namespace Manifest

variable {definition first second : Value} {key : ObjectKey}

/-- The identity that a manifest declares; a namespace that does not count as given is none. -/
def declaredKey (definition : Value) : ObjectKey where
  scope := (Fields.get definition.metadata "namespace").orElse .null
  kind := (definition.get? "kind").getD .null
  apiVersion := (definition.get? "apiVersion").getD .null
  name := Fields.get definition.metadata "name"

/-- A manifest is filed under the identity that it declares. -/
theorem eq_declaredKey (success : Manifest.key definition = .ok key) :
    key = declaredKey definition := by
  simp only [Manifest.key, ObjectKey.of, bind_eq_ok_iff, pure_eq_ok_iff] at success
  obtain ⟨scope, atScope, kind, atKind, apiVersion, atVersion, name, atName, rfl⟩ := success
  obtain rfl := Value.eq_of_asKey atKind
  obtain rfl := Value.eq_of_asKey atVersion
  obtain rfl := Value.eq_of_asKey atName
  rw [Value.eq_of_asKey atScope]
  rfl

theorem declaredKey_congr (kind : first.get? "kind" = second.get? "kind")
    (apiVersion : first.get? "apiVersion" = second.get? "apiVersion")
    (metadata : first.metadata = second.metadata) : declaredKey first = declaredKey second := by
  rw [declaredKey, declaredKey, metadata, kind, apiVersion]

/-- Another name changes the identity in the name alone. -/
theorem declaredKey_named (formed : Manifest.Formed definition) (name : Value) :
    declaredKey (definition.withMetadata (Fields.set definition.metadata "name" name)) =
      { declaredKey definition with name } := by
  rw [declaredKey, declaredKey, formed.metadata_withMetadata, Fields.get_set_self,
    Fields.get_set_of_ne _ _ (by decide), get?_withMetadata_of_ne _ _ (by decide),
    get?_withMetadata_of_ne _ _ (by decide)]

/-- Only a text has a group other than the core one. -/
theorem eq_text_of_groupOf {apiVersion : Value} {group : String}
    (success : groupOf apiVersion = .ok group) (other : group ≠ "") :
    ∃ s, apiVersion = .text s := by
  unfold groupOf at success
  split_ifs at success
  · exact absurd (Except.ok.inj success).symm other
  · split at success
    · exact ⟨_, rfl⟩
    · split_ifs at success
      exact absurd (Except.ok.inj success).symm other
    · split_ifs at success
      exact absurd (Except.ok.inj success).symm other
    · contradiction

end Manifest

namespace Webhook

variable {first second : Value}

private theorem field_kind (content : Fields) : (Value.object content).field "kind" =
    .ok (Manifest.declaredKey (.object content)).kind := rfl

private theorem field_apiVersion (content : Fields) : (Value.object content).field "apiVersion" =
    .ok (Manifest.declaredKey (.object content)).apiVersion := rfl

/-- Whether a manifest is a webhook configuration depends on the identity that it declares. -/
theorem isConfiguration_congr {content content' : Fields} (same :
    Manifest.declaredKey (.object content) = Manifest.declaredKey (.object content')) :
    isConfiguration (.object content) = isConfiguration (.object content') := by
  simp only [isConfiguration, field_kind, field_apiVersion, same]

theorem isConfiguration_iff {content : Fields} : isConfiguration (.object content) = .ok true ↔
    configurationKinds.any (isText (Manifest.declaredKey (.object content)).kind) = true ∧
      Manifest.groupOf (Manifest.declaredKey (.object content)).apiVersion =
        .ok configurationGroup := by
  rw [isConfiguration, field_kind, field_apiVersion]
  simp only [ok_bind]
  cases listed : configurationKinds.any
      (isText (Manifest.declaredKey (.object content)).kind) with
  | false => simp
  | true => cases Manifest.groupOf (Manifest.declaredKey (.object content)).apiVersion <;> simp

/-- What only its name tells apart from a webhook configuration is one too. -/
theorem isConfiguration_of_sameGroup {content content' : Fields}
    (same : (Manifest.declaredKey (.object content)).sameGroup
      (Manifest.declaredKey (.object content')) = true)
    (configuration : isConfiguration (.object content) = .ok true) :
    isConfiguration (.object content') = .ok true := by
  obtain ⟨listed, group⟩ := isConfiguration_iff.mp configuration
  simp only [ObjectKey.sameGroup, ObjectKey.sameKind, Bool.and_eq_true] at same
  obtain ⟨⟨_, sameKind⟩, sameVersion⟩ := same
  refine isConfiguration_iff.mpr ⟨?_, ?_⟩
  · obtain ⟨s, member, isKind⟩ := List.any_eq_true.mp listed
    exact List.any_eq_true.mpr ⟨s, member, Value.same_trans (Value.same_symm sameKind) isKind⟩
  · obtain ⟨s, text⟩ := Manifest.eq_text_of_groupOf group (by decide)
    rw [text] at sameVersion
    rw [Value.same_text_iff.mp sameVersion, ← text, group]

/-- A webhook configuration is named after the package, or keeps its name if there is none. -/
theorem naming_cases {settings : Settings} {lead label desired revision : Value} {naming : Naming}
    (success : Naming.run settings lead label desired revision = .ok naming)
    (formed : Manifest.Formed desired) (configuration : isConfiguration desired = .ok true) :
    (∃ package name, PackageSearch.run settings label revision = .ok (.found package) ∧
        Naming.build (lead.orElse (settings.value .webhookNamePrefix)) package = .ok name ∧
        naming.name = .text name) ∨
      (∀ package, PackageSearch.run settings label revision ≠ .ok (.found package)) ∧
        naming.name = Fields.get desired.metadata "name" := by
  have read : (Value.object desired.metadata).field "name" =
      .ok (Fields.get desired.metadata "name") := rfl
  simp only [Naming.run, formed.fieldOrEmpty_metadata, configuration, read, ok_bind,
    Bool.not_true, Bool.false_eq_true, if_false, bind_eq_ok_iff] at success
  obtain ⟨search, searched, success⟩ := success
  cases search with
  | found package =>
    obtain ⟨name, built, named⟩ := bind_eq_ok_iff.mp success
    obtain rfl := pure_eq_ok_iff.mp named
    exact .inl ⟨package, name, searched, built, rfl⟩
  | unlabelled label =>
    obtain rfl := pure_eq_ok_iff.mp success
    exact .inr ⟨by simp [searched], rfl⟩
  | unmatched package =>
    obtain rfl := pure_eq_ok_iff.mp success
    exact .inr ⟨by simp [searched], rfl⟩

end Webhook

namespace Establisher

/-- Whether the package of a revision is found; then webhook configurations are named after it. -/
def FindsPackage (establisher : Establisher) (settings : Settings) (parent : Revision) : Prop :=
  ∃ package, PackageSearch.run settings establisher.label parent.definition = .ok (.found package)

/-- Whether two objects are given one name: webhook configurations that only their names tell apart,
of a revision whose package is found. -/
def Merges (establisher : Establisher) (settings : Settings) (parent : Revision)
    (first second : Value) : Prop :=
  establisher.FindsPackage settings parent ∧
    Webhook.isConfiguration first = .ok true ∧ Webhook.isConfiguration second = .ok true ∧
    (Manifest.declaredKey first).sameGroup (Manifest.declaredKey second) = true

end Establisher

namespace Pass

variable {pass : Pass} {declared declared' desired desired' : Value} {key key' : ObjectKey}

/-- Metadata that is filled in does not change the declared identity. -/
theorem declaredKey_withMetadata (completed : withMetadata declared = .ok desired)
    (formed : Manifest.Formed desired) :
    Manifest.declaredKey desired = Manifest.declaredKey declared :=
  Manifest.declaredKey_congr (get?_of_withMetadata completed (by decide))
    (get?_of_withMetadata completed (by decide)) (fieldOrEmpty_of_withMetadata completed formed).2

/-- Metadata that is filled in does not change what a manifest is. -/
theorem isConfiguration_withMetadata (completed : withMetadata declared = .ok desired)
    (formed : Manifest.Formed desired) :
    Webhook.isConfiguration declared = Webhook.isConfiguration desired := by
  have declares := declaredKey_withMetadata completed formed
  obtain ⟨content, read, _⟩ := Value.fieldOrEmpty_eq_ok_iff.mp
    (fieldOrEmpty_of_withMetadata completed formed).1
  obtain ⟨content', rfl, _⟩ := formed.eq_object
  subst read
  exact (Webhook.isConfiguration_congr declares).symm

theorem Prepared.exists_content (prepared : pass.Prepared declared desired key) :
    ∃ content, declared = .object content := by
  obtain ⟨renamed, named, _, formed, _⟩ := prepare_cases prepared.outcome prepared.formed
  obtain ⟨content, _, same, _⟩ := Establisher.exists_content_renamed named formed
  exact ⟨content, same⟩

/-- The final identity of an object is the declared one, but for the name of a webhook configuration
if the package is found. -/
theorem Prepared.key_cases (prepared : pass.Prepared declared desired key) :
    (key = Manifest.declaredKey declared ∧
        (Webhook.isConfiguration declared = .ok true →
          ¬ pass.establisher.FindsPackage pass.settings pass.parent)) ∨
      ∃ package name, Webhook.isConfiguration declared = .ok true ∧
        PackageSearch.run pass.settings pass.establisher.label pass.parent.definition =
          .ok (.found package) ∧
        Webhook.Naming.build (pass.establisher.lead.orElse
          (pass.settings.value .webhookNamePrefix)) package = .ok name ∧
        key = { Manifest.declaredKey declared with name := .text name } := by
  obtain ⟨content, rfl⟩ := prepared.exists_content
  obtain ⟨renamed, named, injected, formed, metadata⟩ :=
    prepare_cases prepared.outcome prepared.formed
  obtain ⟨whole, completed, formed', shape⟩ := Establisher.renamed_cases named formed
  have final : key = Manifest.declaredKey renamed := by
    rw [Manifest.eq_declaredKey prepared.atKey]
    exact Manifest.declaredKey_congr (Webhook.get?_of_inject injected (by decide) (by decide))
      (Webhook.get?_of_inject injected (by decide) (by decide)) metadata
  -- The bundle does not enter the identity; what is left is the naming.
  rw [final, isConfiguration_withMetadata completed formed',
    ← declaredKey_withMetadata completed formed']
  obtain ⟨other, rfl⟩ | ⟨configuration, naming, run, rfl⟩ := shape
  · exact .inl ⟨rfl, by simp [other]⟩
  · rw [Manifest.declaredKey_named formed']
    obtain ⟨package, name, searched, built, given⟩ | ⟨notFound, given⟩ :=
      Webhook.naming_cases run formed' configuration
    · exact .inr ⟨package, name, configuration, searched, built, by rw [given]⟩
    · refine .inl ⟨by rw [given]; rfl, ?_⟩
      rintro _ ⟨package, searched⟩
      exact notFound package searched

private theorem apart_of_kept {content content' : Fields}
    (found : pass.establisher.FindsPackage pass.settings pass.parent)
    (kept : Webhook.isConfiguration (.object content) = .ok true →
      ¬ pass.establisher.FindsPackage pass.settings pass.parent)
    (configuration : Webhook.isConfiguration (.object content') = .ok true) :
    (Manifest.declaredKey (.object content')).sameGroup
      (Manifest.declaredKey (.object content)) = false := by
  by_contra same
  exact kept (Webhook.isConfiguration_of_sameGroup (by simpa using same) configuration) found

/-- Two objects have one final identity exactly if they declare one or are given one name. -/
theorem Prepared.same_iff (prepared : pass.Prepared declared desired key)
    (prepared' : pass.Prepared declared' desired' key') : key.same key' = true ↔
      (Manifest.declaredKey declared).same (Manifest.declaredKey declared') = true ∨
        pass.establisher.Merges pass.settings pass.parent declared declared' := by
  obtain ⟨content, rfl⟩ := prepared.exists_content
  obtain ⟨content', rfl⟩ := prepared'.exists_content
  obtain ⟨rfl, kept⟩ | ⟨package, name, configuration, searched, built, rfl⟩ := prepared.key_cases
  · obtain ⟨rfl, kept'⟩ | ⟨package', name', configuration', searched', _, rfl⟩ :=
      prepared'.key_cases
    · constructor
      · exact .inl
      · rintro (same | ⟨found, configuration, _⟩)
        · exact same
        · exact absurd found (kept configuration)
    · have apart := apart_of_kept ⟨package', searched'⟩ kept configuration'
      rw [ObjectKey.sameGroup_comm] at apart
      simp [ObjectKey.same, Establisher.Merges, apart]
  · obtain ⟨rfl, kept'⟩ | ⟨package', name', configuration', searched', built', rfl⟩ :=
      prepared'.key_cases
    · have apart := apart_of_kept ⟨package, searched⟩ kept' configuration
      simp [ObjectKey.same, Establisher.Merges, apart]
    · -- Both have the name of the package, so only the rest of the identities can differ.
      obtain rfl : package = package' := by
        simpa using searched.symm.trans searched'
      obtain rfl := Except.ok.inj (built.symm.trans built')
      have merges : pass.establisher.Merges pass.settings pass.parent (.object content)
            (.object content') ↔
          (Manifest.declaredKey (.object content)).sameGroup
            (Manifest.declaredKey (.object content')) = true :=
        ⟨fun merges => merges.2.2.2,
          fun same => ⟨⟨package, searched⟩, configuration, configuration', same⟩⟩
      rw [merges]
      constructor
      · intro same
        have group := ObjectKey.sameGroup_of_same same
        exact .inr group
      · rintro (same | group)
        · simp [ObjectKey.same, ObjectKey.sameGroup_of_same same]
        · simp [ObjectKey.same, group]

/-- A successful pass has prepared all of its objects. -/
theorem exists_prepared {issuer : Issuer} {memory after : Memory} {objects : List Value}
    {results : List Established} (sound : memory.Sound)
    (success : Yields (Memory.answer issuer) memory (pass.establishAll objects) results after) :
    ∀ declared ∈ objects, ∃ desired key, pass.Prepared declared desired key := by
  induction objects generalizing memory results with
  | nil => simp
  | cons declared rest ih =>
    obtain ⟨_, middle, _, one, all, _⟩ := yields_establishAll_cons_iff.mp success
    obtain ⟨desired, key, prepared, _⟩ := leaves_of_yields sound one
    exact List.forall_mem_cons.mpr ⟨⟨desired, key, prepared⟩, ih (sound.yields one) all⟩

/-- Objects that declare different identities stay apart exactly if they are not given one name. -/
theorem apart_iff (prepared : pass.Prepared declared desired key)
    (prepared' : pass.Prepared declared' desired' key')
    (distinct : (Manifest.declaredKey declared).same (Manifest.declaredKey declared') = false) :
    pass.Apart declared declared' ↔
      ¬ pass.establisher.Merges pass.settings pass.parent declared declared' := by
  have merged : key.same key' = true ↔
      pass.establisher.Merges pass.settings pass.parent declared declared' := by
    simpa [distinct] using prepared.same_iff prepared'
  rw [← merged]
  constructor
  · intro apart
    simp [apart key key' prepared.finalKey_eq prepared'.finalKey_eq]
  · intro apart own own' atOwn atOwn'
    obtain rfl := Except.ok.inj (prepared.finalKey_eq.symm.trans atOwn)
    obtain rfl := Except.ok.inj (prepared'.finalKey_eq.symm.trans atOwn')
    simpa using apart

/-- The objects of a successful pass that declare different identities stay apart exactly if no two
of them are given one name. -/
theorem pairwise_apart_iff {issuer : Issuer} {memory after : Memory} {objects : List Value}
    {results : List Established} (sound : memory.Sound)
    (success : Yields (Memory.answer issuer) memory (pass.establishAll objects) results after)
    (distinct : objects.Pairwise fun first second =>
      (Manifest.declaredKey first).same (Manifest.declaredKey second) = false) :
    objects.Pairwise pass.Apart ↔ objects.Pairwise fun first second =>
      ¬ pass.establisher.Merges pass.settings pass.parent first second := by
  have prepared := exists_prepared sound success
  have one {first second : Value} (member : first ∈ objects) (member' : second ∈ objects)
      (distinct : (Manifest.declaredKey first).same (Manifest.declaredKey second) = false) :
      pass.Apart first second ↔
        ¬ pass.establisher.Merges pass.settings pass.parent first second := by
    obtain ⟨_, _, prepared'⟩ := prepared first member
    obtain ⟨_, _, prepared''⟩ := prepared second member'
    exact apart_iff prepared' prepared'' distinct
  constructor
  · intro apart
    exact (apart.and distinct).imp_of_mem fun member member' both =>
      (one member member' both.2).mp both.1
  · intro unmerged
    exact (unmerged.and distinct).imp_of_mem fun member member' both =>
      (one member member' both.2).mpr both.1

end Pass

namespace Undertaking

variable {issuer : Issuer} {memory after : Memory} {results : List Established}

/-- Whether two declared objects have different final identities, as far as they have any. -/
def Apart (undertaking : Undertaking) (first second : Value) : Prop :=
  ∀ key key', undertaking.finalKey first = .ok key → undertaking.finalKey second = .ok key' →
    key.same key' = false

/-- Whether two declared objects are given one name, as webhook configurations of a package. -/
def Merges (undertaking : Undertaking) (first second : Value) : Prop :=
  undertaking.establisher.Merges undertaking.settings undertaking.parent first second

/-- Objects of different declared identities that a control pass establishes stay apart exactly if
no two of them are given one name. If so, each of them has an object of its own in the store, which
has its content and was created once if there was none, and never if there was one. -/
theorem keeps_objects_apart (undertaking : Undertaking) (reachable : memory.Reachable issuer)
    (control : undertaking.takesControl = true)
    (distinct : undertaking.objects.Pairwise fun first second =>
      (Manifest.declaredKey first).same (Manifest.declaredKey second) = false)
    (success : Yields (Memory.answer issuer) memory undertaking.activity results after) :
    (undertaking.objects.Pairwise undertaking.Apart ↔
        undertaking.objects.Pairwise fun first second => ¬ undertaking.Merges first second) ∧
      ((undertaking.objects.Pairwise fun first second => ¬ undertaking.Merges first second) →
        ∃ bundle, Yields (Memory.answer issuer) memory undertaking.fetch bundle memory ∧
          List.Forall₂ (fun declared result => ∃ key object,
            Pass.Controlled issuer (undertaking.pass bundle) memory after declared result key
                object ∧
              (undertaking.activity.run (Memory.answer issuer) memory).exchanges.countP
                (Memory.creation key) = if (memory.find? key).isSome then 0 else 1)
            undertaking.objects results) := by
  obtain ⟨bundle, fetched, _, all⟩ := yields_activity_iff.mp success
  have apart_iff := Pass.pairwise_apart_iff reachable.sound all distinct
  refine ⟨apart_iff, fun unmerged => ⟨bundle, fetched, ?_⟩⟩
  have controlled : List.Forall₂ (fun declared result => ∃ key object, Pass.Controlled issuer
      (undertaking.pass bundle) memory after declared result key object)
      undertaking.objects results :=
    Pass.controlled_of_yields control reachable.sound (apart_iff.mpr unmerged) all
      (fun _ _ _ _ => rfl) ⟨Nat.le_refl _, Nat.le_refl _⟩
  refine controlled.imp ?_
  rintro declared result ⟨key, object, controlled⟩
  refine ⟨key, object, controlled, ?_⟩
  rw [Memory.countP_creation_of_answers reachable.sound
    (answers_run (Memory.answer issuer) memory undertaking.activity), success.2, controlled.found]
  cases memory.find? key <;> rfl

/-- A revision without a package keeps two objects apart that a store does not hold yet. -/
theorem keeps_objects_apart_ofNames : ∃ undertaking bundle results after,
    undertaking = ofNames "r" ["a", "b"] true ∧
    Yields (Memory.answer Memory.numerals) (Memory.empty true) undertaking.activity results after ∧
    undertaking.objects.Pairwise undertaking.Apart ∧
    List.Forall₂ (fun declared result => ∃ key object,
      Pass.Controlled Memory.numerals (undertaking.pass bundle) (Memory.empty true) after declared
          result key object ∧
        (undertaking.activity.run (Memory.answer Memory.numerals)
          (Memory.empty true)).exchanges.countP (Memory.creation key) =
            if ((Memory.empty true).find? key).isSome then 0 else 1)
      [bare "a", bare "b"] results := by
  have start : Memory.Reachable Memory.numerals (Memory.empty true) :=
    .start (show Memory.ofResources Memory.numerals true [] = .ok _ from rfl)
  have distinct : [bare "a", bare "b"].Pairwise fun first second =>
      (Manifest.declaredKey first).same (Manifest.declaredKey second) = false :=
    List.pairwise_pair.mpr rfl
  have unmerged : [bare "a", bare "b"].Pairwise fun first second =>
      ¬ (ofNames "r" ["a", "b"] true).Merges first second := by
    refine List.pairwise_pair.mpr ?_
    rintro ⟨⟨package, found⟩, _⟩
    cases found
  obtain ⟨apart_iff, controlled⟩ :=
    keeps_objects_apart (ofNames "r" ["a", "b"] true) start rfl distinct ⟨rfl, rfl⟩
  obtain ⟨bundle, _, controlled⟩ := controlled unmerged
  exact ⟨_, bundle, _, _, rfl, ⟨rfl, rfl⟩, apart_iff.mpr unmerged, controlled⟩

def configuration (name webhook : String) : Value :=
  .object [("apiVersion", .text "admissionregistration.k8s.io/v1"),
    ("kind", .text "MutatingWebhookConfiguration"), ("metadata", .object [("name", .text name)]),
    ("webhooks", .list [.object [("name", .text webhook)]])]

def packaged : Value :=
  .object [("name", .text "r"), ("labels", .object [("pkg.crossplane.io/package", .text "p")]),
    ("ownerReferences", .list [.object [("apiVersion", .text "pkg.crossplane.io/v1"),
      ("kind", .text "Provider"), ("name", .text "p"), ("uid", .text "u")]])]

/-- A call of a revision of the package `p` for two webhook configurations. -/
def twins : Undertaking where
  establisher := ⟨.text "test", .null, .null, .null, .null⟩
  settings := Settings.defaults
  objects := [configuration "a" "first", configuration "b" "second"]
  parent := {
    definition := .object [("apiVersion", .text "pkg.crossplane.io/v1"),
      ("kind", .text "ProviderRevision"), ("metadata", packaged)]
    kind := .text "ProviderRevision"
    apiVersion := .text "pkg.crossplane.io/v1"
    metadata := packaged
    name := .text "r"
    scope := .null
    uid := .null }
  control := .bool true

/-- Of two configurations of one package that declare different names, the second takes the place of
the first. -/
theorem twins_collide : ∃ results after,
    Memory.Reachable Memory.numerals (Memory.empty true) ∧
    Revision.ofManifest twins.parent.definition = .ok twins.parent ∧ twins.takesControl = true ∧
    twins.objects.Pairwise (fun first second =>
      (Manifest.declaredKey first).same (Manifest.declaredKey second) = false) ∧
    Yields (Memory.answer Memory.numerals) (Memory.empty true) twins.activity results after ∧
    results.map (·.outcome) = [.created, .updated] ∧ after.objects.length = 1 ∧
    ¬ twins.objects.Pairwise twins.Apart := by
  refine ⟨_, _, .start (show Memory.ofResources Memory.numerals true [] = .ok _ from rfl), rfl,
    rfl, List.pairwise_pair.mpr rfl, ⟨rfl, rfl⟩, rfl, rfl, fun apart => ?_⟩
  have same := List.pairwise_pair.mp apart _ _ rfl rfl
  cases same

end Undertaking

end ManifestOwnership
