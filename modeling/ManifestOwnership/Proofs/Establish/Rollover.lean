import ManifestOwnership.Proofs.Establish.Conversion
import ManifestOwnership.Proofs.Establish.Handover
import ManifestOwnership.Proofs.Establish.Identity

/-! # One package, two revisions

A package is upgraded by a new revision that declares its webhook configurations anew, perhaps under
other names. The configurations are named after the package, so the new revision meets the objects
of the old one: it takes them over, the old revision stays a mere owner, and the webhooks lead to
the service of the new revision under the bundle of the new secret. Nothing of the old configuration
is left behind under another name.
-/

namespace ManifestOwnership

open Store Interaction

variable {issuer : Issuer} {memory middle after : Memory}

namespace Webhook

/-- Two webhook configurations without a namespace that only their names tell apart. -/
structure Counterparts (first second : Value) : Prop where
  configuration : isConfiguration first = .ok true
  configuration' : isConfiguration second = .ok true
  apiVersion : second.get? "apiVersion" = first.get? "apiVersion"
  kind : second.get? "kind" = first.get? "kind"
  scope : (Fields.get first.metadata "namespace").truthy = false
  scope' : (Fields.get second.metadata "namespace").truthy = false

/-- Counterparts declare the same identity up to the name. -/
theorem Counterparts.declaredKey_eq {first second : Value} (pair : Counterparts first second) :
    Manifest.declaredKey second =
      { Manifest.declaredKey first with name := (Manifest.declaredKey second).name } := by
  simp [Manifest.declaredKey, pair.apiVersion, pair.kind, Value.orElse, pair.scope, pair.scope']

/-- A name is built from the name of the package and its kind, whichever way that is capitalized. -/
theorem Naming.build_congr {lead : Value} {package package' : OwnerReference}
    {kind kind' : String} (typed : package.kind = .text kind)
    (typed' : package'.kind = .text kind') (named : package'.name = package.name)
    (same : Text.lowerCase kind' = Text.lowerCase kind) :
    Naming.build lead package' = Naming.build lead package := by
  simp only [Naming.build, typed, typed', named, same]

/-- A configuration that is given a bundle and a service leads to the service. -/
theorem Service.allLeadTo_of_inject {service : Service} {bundle : CABundle}
    {definition changed : Value} (configuration : isConfiguration definition = .ok true)
    (success : service.inject (some bundle) definition = .ok changed) :
    Injection.AllLeadTo service (CABundle.written bundle) changed := by
  simp only [Service.inject, Injection.run, configuration] at success
  exact Injection.allLeadTo_of_intoConfiguration success

end Webhook

namespace Pass

variable {pass : Pass} {key : ObjectKey} {declared desired : Value} {front back : List Value}
  {results : List Established} {outcome : Outcome}

/-- The reference to an object is part of the identity. -/
theorem Prepared.reference_eq {reference : TypedReference}
    (prepared : pass.Prepared declared desired key)
    (shown : TypedReference.ofManifest desired = .ok reference) :
    reference = ⟨key.apiVersion.orElse (.text ""), key.kind.orElse (.text ""),
      key.name.orElse (.text "")⟩ := by
  rw [prepared.formed.reference_eq] at shown
  rw [Manifest.eq_declaredKey prepared.atKey]
  exact (Except.ok.inj shown).symm

/-- A webhook configuration leads to the service of the revision once it is prepared. -/
theorem Prepared.allLeadTo {bundle : Webhook.CABundle}
    (prepared : pass.Prepared declared desired key) (present : pass.bundle = some bundle)
    (configuration : Webhook.isConfiguration declared = .ok true) :
    Webhook.Injection.AllLeadTo pass.service (Webhook.CABundle.written bundle) desired := by
  obtain ⟨renamed, named, injected, formed, _⟩ := prepare_cases prepared.outcome prepared.formed
  obtain ⟨content, content', rfl, rfl, same⟩ := Establisher.exists_content_renamed named formed
  rw [present] at injected
  refine Webhook.Service.allLeadTo_of_inject ?_ injected
  rwa [Webhook.isConfiguration_eq (same "kind" (by decide)) (same "apiVersion" (by decide))]

/-- An object that is there is updated. -/
theorem Leaves.outcome_of_isSome (leaves : Leaves issuer pass memory desired key outcome after)
    (present : (memory.find? key).isSome = true) : outcome = .updated := by
  cases leaves with
  | skipped skips =>
    obtain ⟨_, absent⟩ : pass.takesControl = false ∧ memory.find? key = none := by
      simpa [Pass.skips] using skips
    rw [absent] at present
    contradiction
  | wrote => rw [if_pos present]

/-- A control pass leaves the content of the desired object. -/
theorem Leaves.exists_found (leaves : Leaves issuer pass memory desired key outcome after)
    (control : pass.takesControl = true) :
    ∃ stored, after.find? key = some stored ∧ Manifest.Agree adjusted stored desired := by
  cases leaves with
  | skipped skips => simp [Pass.skips, control] at skips
  | @wrote stored _ _ wrote =>
    have content := wrote.content
    rw [base, if_pos control] at content
    exact ⟨stored, wrote.find?_self, content⟩

/-- A pass at one of its objects: those before it are established, then it is, then the others. -/
structure Reaches (issuer : Issuer) (pass : Pass) (memory : Memory) (declared : Value)
    (back : List Value) (after : Memory) (result : Established) (desired : Value)
    (key : ObjectKey) : Prop where
  prepared : pass.Prepared declared desired key
  reference : result.reference = ⟨key.apiVersion.orElse (.text ""), key.kind.orElse (.text ""),
    key.name.orElse (.text "")⟩
  course : ∃ before middle exchanges others,
    Answers (Memory.answer issuer) memory exchanges before ∧ before.Sound ∧
      Leaves issuer pass before desired key result.outcome middle ∧ middle.Sound ∧
        Yields (Memory.answer issuer) middle (pass.establishAll back) others after

/-- A successful pass reaches each of its objects and reports it at its place. -/
theorem exists_reaches (sound : memory.Sound)
    (success : Yields (Memory.answer issuer) memory (pass.establishAll (front ++ declared :: back))
      results after) :
    ∃ result desired key, results[front.length]? = some result ∧
      Reaches issuer pass memory declared back after result desired key := by
  obtain ⟨early, before, late, first, rest, rfl⟩ := yields_establishAll_append_iff.mp success
  obtain ⟨result, middle, others, one, last, rfl⟩ := yields_establishAll_cons_iff.mp rest
  have sound' := sound.yields first
  obtain ⟨desired, key, prepared, shown, leaves⟩ := leaves_of_yields sound' one
  obtain ⟨exchanges, answers⟩ := exists_answers_of_yields first
  refine ⟨result, desired, key, ?_, prepared, prepared.reference_eq shown, before, middle,
    exchanges, others, answers, sound', leaves, sound'.yields one, last⟩
  simp [← length_of_yields first]

namespace Reaches

variable {result : Established}

/-- An object that was there before the pass is updated. -/
theorem outcome_of_isSome
    (reaches : Reaches issuer pass memory declared back after result desired key)
    (sound : memory.Sound) (present : (memory.find? key).isSome = true) :
    result.outcome = .updated := by
  obtain ⟨before, middle, exchanges, others, answers, _, leaves, _⟩ := reaches.course
  exact leaves.outcome_of_isSome (Memory.isSome_of_answers sound answers present)

/-- The last object of an identity leaves its content there. -/
theorem exists_found (reaches : Reaches issuer pass memory declared back after result desired key)
    (control : pass.takesControl = true)
    (last : ∀ other ∈ back, ∀ final,
      pass.establisher.finalKey pass.settings pass.parent other = .ok final →
        final.same key = false) :
    ∃ stored, after.find? key = some stored ∧ Manifest.Agree adjusted stored desired := by
  obtain ⟨before, middle, exchanges, others, _, _, leaves, sound, rest⟩ := reaches.course
  obtain ⟨stored, found, content⟩ := leaves.exists_found control
  refine ⟨stored, ?_, content⟩
  rw [find?_of_apart rest sound fun other member desired final prepared =>
    last other member final prepared.finalKey_eq, found]

end Reaches

end Pass

namespace Undertaking

variable {first second : Undertaking} {results results' : List Established}

/-- Two revisions of one package, both established by one establisher. -/
structure OfOnePackage (first second : Undertaking) : Prop where
  establisher : second.establisher = first.establisher
  settings : second.settings = first.settings
  apart : first.parent.reference.sameKey second.parent.reference = false
  packages : ∃ package package' name kind kind',
    PackageSearch.run first.settings first.establisher.label first.parent.definition =
        .ok (.found package) ∧
      PackageSearch.run second.settings second.establisher.label second.parent.definition =
        .ok (.found package') ∧
      package.name = .text name ∧ package'.name = .text name ∧
      package.kind = .text kind ∧ package'.kind = .text kind' ∧
      Text.lowerCase kind' = Text.lowerCase kind

def service (undertaking : Undertaking) : Webhook.Service :=
  ⟨undertaking.parent.name, undertaking.scope, undertaking.establisher.port⟩

/-- Counterparts that two revisions of one package declare have one final identity. -/
theorem OfOnePackage.key_eq {declared declared' desired desired' : Value}
    {bundle bundle' : Option Webhook.CABundle} {key key' : ObjectKey}
    (package : first.OfOnePackage second) (pair : Webhook.Counterparts declared declared')
    (prepared : (first.pass bundle).Prepared declared desired key)
    (prepared' : (second.pass bundle').Prepared declared' desired' key') : key' = key := by
  obtain ⟨found, found', name, kind, kind', searched, searched', named, named', typed, typed',
    same⟩ := package.packages
  obtain ⟨rfl, kept⟩ | ⟨found₁, name₁, _, again, built, rfl⟩ := prepared.key_cases
  · exact absurd ⟨found, searched⟩ (kept pair.configuration)
  obtain ⟨rfl, kept⟩ | ⟨found₂, name₂, _, again', built', rfl⟩ := prepared'.key_cases
  · exact absurd ⟨found', searched'⟩ (kept pair.configuration')
  obtain rfl : found = found₁ := by simpa using searched.symm.trans again
  obtain rfl : found' = found₂ := by simpa using searched'.symm.trans again'
  have built' : Webhook.Naming.build ((first.pass bundle).establisher.lead.orElse
      ((first.pass bundle).settings.value .webhookNamePrefix)) found' = .ok name₂ := by
    rw [← built', pass, pass, package.establisher, package.settings]
  rw [Webhook.Naming.build_congr typed typed' (named'.trans named.symm) same, built] at built'
  rw [pair.declaredKey_eq, Except.ok.inj built']

/-- What becomes of an object that one revision left and another one takes over: it is the only one
of its identity before and after, keeps its uid, and has the other revision in sole control and the
one before as a mere owner. -/
structure TakesOver (first second : Undertaking) (middle after : Memory) (key : ObjectKey)
    (object object' : Value) : Prop where
  found : middle.find? key = some object
  found' : after.find? key = some object'
  alone : middle.objects.countP (Manifest.hasKey key) = 1
  alone' : after.objects.countP (Manifest.hasKey key) = 1
  uid : Fields.get? object'.metadata "uid" = Fields.get? object.metadata "uid"
  owners : ∃ refs, Manifest.owners object' = .ok refs ∧
    OwnerReference.Ruled second.parent.reference True refs ∧
      (∃ ref ∈ refs, ref.sameKey first.parent.reference = true) ∧
      ∀ ref ∈ refs, ref.sameKey first.parent.reference = true → ref.isController = false

/-- An object that was owned before a control pass over its identity is taken over. -/
theorem exists_takesOver {object : Value} {key : ObjectKey} (sound : middle.Sound)
    (apart : first.parent.reference.sameKey second.parent.reference = false)
    (control : second.takesControl = true) (declares : second.Declares key)
    (owned : middle.Owned key first.parent.reference) (found : middle.find? key = some object)
    (success : Yields (Memory.answer issuer) middle second.activity results after) :
    ∃ object', first.TakesOver second middle after key object object' := by
  obtain ⟨bundle, _, _, all⟩ := yields_activity_iff.mp success
  have inControl : (second.pass bundle).takesControl = true := control
  obtain ⟨object', refs, found', owners, ruled⟩ :
      after.Governed key second.parent.reference True :=
    Pass.governed_of_control inControl all sound (.inl declares)
  obtain ⟨_, _, found'', owners', ref, member, same⟩ :=
    (Pass.keeps_of_yields all sound).owned owned
  obtain rfl := Option.some.inj (found'.symm.trans found'')
  obtain rfl := Except.ok.inj (owners.symm.trans owners')
  obtain ⟨exchanges, answers⟩ := exists_answers_of_yields success
  obtain ⟨_, found'', replaces⟩ := Memory.replaces_of_answers sound answers found
  obtain rfl := Option.some.inj (found'.symm.trans found'')
  refine ⟨object', found, found', sound.countP_hasKey found,
    (sound.yields success).countP_hasKey found', replaces.uid, refs, owners, ruled,
    ⟨ref, member, same⟩, fun other member' same' => ?_⟩
  by_contra claims
  have ruler := ruled.sole other member' (by simpa using claims)
  have both := OwnerReference.sameKey_trans (OwnerReference.sameKey_symm same') ruler
  rw [apart] at both
  contradiction

/-- A webhook configuration of one revision of a package is taken over by its counterpart in the
next revision, whatever names they declare and whatever else the revisions declare: it is updated,
keeps its reference and its uid, and stays the only object of its identity, with the new revision in
sole control and the old one as a mere owner. If the new revision names a secret and the counterpart
is the last of its objects under that identity, all webhooks lead to the service of the new revision
and trust the bundle of the new secret. -/
theorem rolls_over {declared declared' : Value} {front back front' back' : List Value}
    (reachable : memory.Reachable issuer) (package : first.OfOnePackage second)
    (pair : Webhook.Counterparts declared declared')
    (control : first.takesControl = true) (control' : second.takesControl = true)
    (split : first.objects = front ++ declared :: back)
    (split' : second.objects = front' ++ declared' :: back')
    (success : Yields (Memory.answer issuer) memory first.activity results middle)
    (success' : Yields (Memory.answer issuer) middle second.activity results' after) :
    ∃ key result result' object object',
      first.finalKey declared = .ok key ∧ second.finalKey declared' = .ok key ∧
      results[front.length]? = some result ∧ results'[front'.length]? = some result' ∧
      result'.outcome = .updated ∧ result'.reference = result.reference ∧
      first.TakesOver second middle after key object object' ∧
      ∀ own, second.secretKey = .ok (some own) →
        (∀ other ∈ back', ∀ final, second.finalKey other = .ok final → final.same key = false) →
        ∃ secret bundle, middle.find? own = some secret ∧
          Webhook.CABundle.HeldBy second.certificateKey secret bundle ∧
          Webhook.Injection.AllLeadTo second.service (Webhook.CABundle.written bundle)
            object' := by
  have sound := reachable.sound
  have sound' := sound.yields success
  obtain ⟨bundle, _, _, all⟩ := yields_activity_iff.mp success
  obtain ⟨bundle', fetched, _, all'⟩ := yields_activity_iff.mp success'
  have inControl : (first.pass bundle).takesControl = true := control
  have inControl' : (second.pass bundle').takesControl = true := control'
  obtain ⟨result, desired, key, reported, reaches⟩ := Pass.exists_reaches sound (split ▸ all)
  obtain ⟨result', desired', _, reported', reaches'⟩ := Pass.exists_reaches sound' (split' ▸ all')
  obtain rfl := package.key_eq pair reaches.prepared reaches'.prepared
  have final := reaches.prepared.finalKey_eq
  have final' := reaches'.prepared.finalKey_eq
  have places : (first.pass bundle).Places _ first.objects :=
    ⟨declared, by simp [split], _, final, ObjectKey.same_refl _⟩
  have declares : second.Declares _ :=
    ⟨declared', by simp [split'], _, final', ObjectKey.same_refl _⟩
  obtain ⟨object, refs, found, owners, ruled⟩ :=
    Pass.governed_of_control inControl all sound (.inl places)
  obtain ⟨object', takesOver⟩ := exists_takesOver sound' package.apart control' declares
    ⟨object, refs, found, owners, ruled.present⟩ found success'
  refine ⟨_, result, result', object, object', final, final', reported, reported', ?_, ?_,
    takesOver, fun own atSecret last => ?_⟩
  · exact reaches'.outcome_of_isSome sound' (by rw [found]; rfl)
  · rw [reaches.reference, reaches'.reference]
  · obtain ⟨unnamed, _⟩ | ⟨_, secret, authority, atSecret', held, holds, rfl⟩ :=
      yields_fetch_iff.mp fetched
    · simp [atSecret] at unnamed
    · obtain rfl := Option.some.inj (Except.ok.inj (atSecret.symm.trans atSecret'))
      refine ⟨secret, authority, held, holds, ?_⟩
      obtain ⟨stored, found', content⟩ := reaches'.exists_found inControl' last
      obtain rfl := Option.some.inj (takesOver.found'.symm.trans found')
      exact (reaches'.prepared.allLeadTo rfl pair.configuration').congr
        (content.content "webhooks" (by decide))

/-- The metadata of a revision of the package `p`, whose kind is given. -/
def revised (revision kind : String) : Value :=
  .object [("name", .text revision),
    ("labels", .object [("pkg.crossplane.io/package", .text "p")]),
    ("ownerReferences", .list [.object [("apiVersion", .text "pkg.crossplane.io/v1"),
      ("kind", .text kind), ("name", .text "p"), ("uid", .text "u")]])]

/-- A control pass of a revision of the package `p`, which names the secret `s` and declares a
webhook configuration under a name of its own. -/
def ofPackage (revision kind declared : String) : Undertaking where
  establisher := ⟨.text "test", .null, .null, .null, .int 9443⟩
  settings := Settings.defaults
  objects := [bare "a", configuration declared revision]
  parent := {
    definition := .object [("apiVersion", .text "pkg.crossplane.io/v1"),
      ("kind", .text "ProviderRevision"), ("metadata", revised revision kind),
      ("spec", .object [("webhookTLSSecretName", .text "s")])]
    kind := .text "ProviderRevision"
    apiVersion := .text "pkg.crossplane.io/v1"
    metadata := revised revision kind
    name := .text revision
    scope := .null
    uid := .null }
  control := .bool true

/-- A strict store that holds the secret `s`. -/
def secured : Memory :=
  ((Memory.empty true).answer Memory.numerals (.create (certified "s"))).state

/-- The store after a pass of the revision `q` of the package. -/
def installed : Memory :=
  ((ofPackage "q" "Provider" "b").activity.run (Memory.answer Memory.numerals) secured).state

/-- Two revisions that write the kind of their package differently and declare their configurations
under different names: the second one takes over, and its webhook leads to its own service. -/
theorem rolls_over_ofPackage : ∃ results results' after key object object',
    Yields (Memory.answer Memory.numerals) secured (ofPackage "q" "Provider" "b").activity results
      installed ∧
    Yields (Memory.answer Memory.numerals) installed (ofPackage "r" "provider" "c").activity
      results' after ∧
    results.map (·.outcome) = [.created, .created] ∧
    results'.map (·.outcome) = [.updated, .updated] ∧
    (ofPackage "r" "provider" "c").finalKey (configuration "c" "r") = .ok key ∧
    (ofPackage "q" "Provider" "b").TakesOver (ofPackage "r" "provider" "c") installed after key
      object object' ∧
    Webhook.Injection.AllLeadTo ⟨.text "r", .text "test", .int 9443⟩
      (Webhook.CABundle.written [99, 97]) object' := by
  have start := Memory.reachable_empty Memory.numerals true
  have package : (ofPackage "q" "Provider" "b").OfOnePackage (ofPackage "r" "provider" "c") :=
    ⟨rfl, rfl, rfl, _, _, "p", "Provider", "provider", rfl, rfl, rfl, rfl, rfl, rfl,
      by decide +kernel⟩
  have pair : Webhook.Counterparts (configuration "b" "q") (configuration "c" "r") :=
    ⟨rfl, rfl, rfl, rfl, rfl, rfl⟩
  -- The two passes are long, so the kernel plays them, and only their outcomes are looked at.
  obtain ⟨results, success, created⟩ : ∃ results, Yields (Memory.answer Memory.numerals) secured
      (ofPackage "q" "Provider" "b").activity results installed ∧
      results.map (·.outcome) = [.created, .created] :=
    exists_yields_of_map (by decide +kernel)
  obtain ⟨results', success', updated⟩ := exists_yields_of_map
    (show ((ofPackage "r" "provider" "c").activity.run (Memory.answer Memory.numerals)
      installed).outcome.map (List.map (·.outcome)) = .ok [.updated, .updated] by decide +kernel)
  have fetched : ((ofPackage "r" "provider" "c").fetch.run (Memory.answer Memory.numerals)
      installed).outcome = .ok (some [99, 97]) := by decide +kernel
  obtain ⟨key, _, _, object, object', _, final, _, _, _, _, takesOver, leads⟩ :=
    rolls_over (start.answer (.create (certified "s"))) package pair rfl rfl
      (show _ = [bare "a"] ++ configuration "b" "q" :: [] from rfl)
      (show _ = [bare "a"] ++ configuration "c" "r" :: [] from rfl) success success'
  have atSecret : (ofPackage "r" "provider" "c").secretKey = .ok (some _) := rfl
  obtain ⟨secret, bundle, held, holds, leads⟩ := leads _ atSecret (by simp)
  rw [outcome_fetch_of_some Memory.numerals atSecret held,
    Webhook.CABundle.ofSecret_eq_ok_iff_heldBy.mpr holds] at fetched
  obtain rfl := Option.some.inj (Except.ok.inj fetched)
  exact ⟨results, results', _, key, object, object', success, success', created, updated, final,
    takesOver, leads⟩

end Undertaking

end ManifestOwnership
