import ManifestOwnership.Proofs.Manifest.WellFormed
import ManifestOwnership.Proofs.Establish.Conversion

/-! # When a pass succeeds

On well-formed manifests nothing but the bundle can keep a pass from its end. It succeeds exactly if
the revision names no secret and no object needs conversion, or the secret is there and holds a
bundle. What carries this through the list of objects is that the owners of every object in the
store can be read: a pass reads them before it writes, and writes them in a form that is read again.
-/

namespace ManifestOwnership

open Store Interaction

variable {issuer : Issuer} {memory after : Memory} {key : ObjectKey} {pass : Pass}
  {declared desired : Value} {objects : List Value}

namespace Store.Memory

/-- The owners of every object in a store can be read. -/
def Readable (memory : Memory) : Prop :=
  ∀ key object, memory.find? key = some object → ∃ refs, Manifest.owners object = .ok refs

theorem Sound.readable (sound : memory.Sound)
    (stored : ∀ object ∈ memory.objects, Manifest.WellFormed object) : memory.Readable := by
  intro key object found
  have member := sound.mem_objects_iff.mpr ⟨key, found⟩
  exact (stored object member).exists_owners

end Store.Memory

namespace Pass

/-- A pass leaves the owners readable. -/
theorem Leaves.readable {outcome : Outcome}
    (leaves : Leaves issuer pass memory desired key outcome after) (readable : memory.Readable) :
    after.Readable := by
  cases leaves with
  | skipped => exact readable
  | @wrote stored _ _ wrote =>
    intro other object found
    rw [wrote.found] at found
    split_ifs at found
    · obtain rfl := Option.some.inj found
      obtain ⟨refs, _, owners⟩ := wrote.owners_stored
      exact ⟨_, owners⟩
    · exact readable other object found

section

variable (parental : Revision.WellFormed pass.parent.definition)
  (hashable : (pass.establisher.label.orElse
    (pass.settings.value .parentPackageLabel)).isKey = true)

include parental hashable

/-- A well-formed object has a desired form with an identity, and its owners can be read. -/
theorem exists_prepared_of_wellFormed (wellFormed : Manifest.WellFormed declared) :
    ∃ desired key, pass.Prepared declared desired key ∧
      ∃ refs, Manifest.owners desired = .ok refs := by
  obtain ⟨renamed, named, wellFormed', formed⟩ :=
    pass.establisher.exists_renamed pass.settings pass.parent wellFormed parental hashable
  obtain ⟨desired, injected⟩ := Webhook.exists_inject pass.service pass.bundle wellFormed'
  have kept {name : String} (webhooks : name ≠ "webhooks") (spec : name ≠ "spec") :
      desired.get? name = renamed.get? name := Webhook.get?_of_inject injected webhooks spec
  have metadata : desired.metadata = renamed.metadata := by
    rw [Value.metadata, kept (by decide) (by decide), Value.metadata]
  have prepared : (pass.prepare declared).outcome = .ok desired := by
    rw [outcome_prepare, named, ok_bind, injected]
  have formed' : Manifest.Formed desired := by
    refine Manifest.formed_iff_get?.mpr ⟨renamed.metadata, ?_⟩
    rw [kept (by decide) (by decide), formed.get?_metadata]
  obtain ⟨key, atKey⟩ := wellFormed'.exists_key
  obtain ⟨refs, owners⟩ := wellFormed'.exists_owners
  refine ⟨desired, key, ⟨prepared, formed', ?_⟩, refs, ?_⟩
  · rw [← atKey, Manifest.key, Manifest.key, metadata, kept (by decide) (by decide),
      kept (by decide) (by decide)]
  · rw [formed'.owners_eq, metadata, ← formed.owners_eq, owners]

/-- Well-formed objects are established, whatever a store with readable owners holds. -/
theorem exists_yields_establishAll (issuer : Issuer) (sound : memory.Sound)
    (readable : memory.Readable)
    (wellFormed : ∀ declared ∈ objects, Manifest.WellFormed declared) :
    ∃ results after, Yields (Memory.answer issuer) memory (pass.establishAll objects) results
      after := by
  -- Of what earlier objects left, later ones read the owners alone.
  induction objects generalizing memory with
  | nil => exact ⟨[], memory, yields_establishAll_nil_iff.mpr ⟨rfl, rfl⟩⟩
  | cons declared rest ih =>
    obtain ⟨here, there⟩ := List.forall_mem_cons.mp wellFormed
    obtain ⟨desired, key, prepared, refs, owners⟩ :=
      exists_prepared_of_wellFormed parental hashable here
    have met : ∃ refs, Manifest.owners (met memory key desired) = .ok refs := by
      rw [Pass.met]
      cases found : memory.find? key with
      | none => exact ⟨refs, owners⟩
      | some object => exact readable key object found
    obtain ⟨outcome, middle, one, leaves⟩ :=
      exists_yields issuer sound prepared prepared.formed.reference_eq fun _ => met
    obtain ⟨results, after, all⟩ := ih (sound.yields one) (leaves.readable readable) there
    exact ⟨_, after, yields_establishAll_cons_iff.mpr ⟨_, middle, results, one, all, rfl⟩⟩

end

end Pass

namespace Undertaking

variable {undertaking : Undertaking}

private theorem yields_activity_iff_bundle (undertaking : Undertaking) (sound : memory.Sound)
    (readable : memory.Readable)
    (parental : Revision.WellFormed undertaking.parent.definition)
    (wellFormed : ∀ declared ∈ undertaking.objects, Manifest.WellFormed declared)
    (hashable : (undertaking.establisher.label.orElse
      (undertaking.settings.value .parentPackageLabel)).isKey = true) :
    (∃ results after, Yields (Memory.answer issuer) memory undertaking.activity results after) ↔
      undertaking.secretKey = .ok none ∧
          (∀ declared ∈ undertaking.objects, Webhook.needsConversion declared ≠ .ok true) ∨
        ∃ key secret bundle, undertaking.secretKey = .ok (some key) ∧
          memory.find? key = some secret ∧
          Webhook.CABundle.HeldBy undertaking.certificateKey secret bundle := by
  have established (bundle : Option Webhook.CABundle) : ∃ results after,
      Yields (Memory.answer issuer) memory
        ((undertaking.pass bundle).establishAll undertaking.objects) results after :=
    Pass.exists_yields_establishAll parental hashable issuer sound readable wellFormed
  constructor
  · rintro ⟨results, after, success⟩
    obtain ⟨bundle, fetched, accepted, _⟩ := yields_activity_iff.mp success
    obtain ⟨unnamed, rfl⟩ | ⟨key, secret, authority, atSecret, found, held, rfl⟩ :=
      yields_fetch_iff.mp fetched
    · refine .inl ⟨unnamed, fun declared member needs => ?_⟩
      rw [accepted rfl declared member] at needs
      simp at needs
    · exact .inr ⟨key, secret, authority, atSecret, found, held⟩
  · rintro (⟨unnamed, without⟩ | ⟨key, secret, authority, atSecret, found, held⟩)
    · have accepted : ∀ declared ∈ undertaking.objects,
          Webhook.needsConversion declared = .ok false := by
        intro declared member
        obtain ⟨needs, judged, _⟩ := Webhook.exists_needsConversion (wellFormed declared member)
        cases needs with
        | true => exact absurd judged (without declared member)
        | false => exact judged
      obtain ⟨results, after, all⟩ := established none
      exact ⟨results, after, yields_activity_iff.mpr
        ⟨none, yields_fetch_iff.mpr (.inl ⟨unnamed, rfl⟩), fun _ => accepted, all⟩⟩
    · have fetched : Yields (Memory.answer issuer) memory undertaking.fetch (some authority)
          memory := yields_fetch_iff.mpr
        (.inr ⟨key, secret, authority, atSecret, found, held, rfl⟩)
      obtain ⟨results, after, all⟩ := established (some authority)
      exact ⟨results, after, yields_activity_iff.mpr ⟨_, fetched, by simp, all⟩⟩

private theorem wellFormed_converted :
    Manifest.WellFormed (converted (.object [("name", .text "b")])) where
  apiVersion := ⟨_, rfl⟩
  kind := ⟨_, rfl⟩
  metadata := ⟨_, rfl, Fields.open_of_get rfl⟩
  name := .inr ⟨_, rfl⟩
  scope := .inl rfl
  owners := .inl rfl
  webhooks := by
    rintro ⟨kind, listed, atKind, _⟩
    obtain rfl := Value.text.inj (Option.some.inj atKind)
    contradiction
  conversion _ := by
    refine ⟨_, rfl, Fields.open_cons_iff.mpr (.inr ⟨_, rfl, ?_⟩)⟩
    refine Fields.open_cons_iff.mpr (.inr ⟨_, rfl, ?_⟩)
    exact Fields.open_cons_iff.mpr (.inl rfl)

/-- A pass of a well-formed revision over well-formed objects, against a store of well-formed
objects, succeeds exactly if the revision names no secret and no object needs a conversion webhook,
or it names one that the store has and that holds a bundle. The package label has to be a value that
can be looked up, as any text can. -/
theorem succeeds_iff (establisher : Establisher) (settings : Settings) (objects : List Value)
    (manifest control : Value) (reachable : memory.Reachable issuer)
    (stored : ∀ object ∈ memory.objects, Manifest.WellFormed object)
    (parental : Revision.WellFormed manifest)
    (wellFormed : ∀ declared ∈ objects, Manifest.WellFormed declared)
    (hashable : (establisher.label.orElse (settings.value .parentPackageLabel)).isKey = true) :
    ∃ revision, Revision.ofManifest manifest = .ok revision ∧ ∀ undertaking : Undertaking,
      undertaking = ⟨establisher, settings, objects, revision, control⟩ →
        ((∃ results after, Yields (Memory.answer issuer) memory
            (establisher.establishFor settings (.list objects) manifest control) results after) ↔
          undertaking.secretKey = .ok none ∧
              (∀ declared ∈ objects, Webhook.needsConversion declared ≠ .ok true) ∨
            ∃ key secret bundle, undertaking.secretKey = .ok (some key) ∧
              memory.find? key = some secret ∧
              Webhook.CABundle.HeldBy undertaking.certificateKey secret bundle) := by
  obtain ⟨revision, viewed, rfl⟩ := parental.exists_ofManifest
  refine ⟨revision, viewed, ?_⟩
  rintro undertaking rfl
  rw [establishFor_eq, viewed]
  have sound := reachable.sound
  exact yields_activity_iff_bundle ⟨establisher, settings, objects, revision, control⟩ sound
    (sound.readable stored) parental wellFormed hashable

/-- A revision that names a secret with a certificate establishes an object that needs conversion,
and one that names a secret that is not there does not. -/
theorem succeeds_iff_certified : ∃ memory succeeds,
    memory = ((Memory.empty true).answer Memory.numerals (.create (certified "s"))).state ∧
    succeeds = (fun name => ∃ results after, Yields (Memory.answer Memory.numerals) memory
      ((securedBy .null [] true).establisher.establishFor Settings.defaults
        (.list [bare "a", converted (.object [("name", .text "b")])])
        (securedBy (.text name) [] true).parent.definition (.bool true)) results after) ∧
    succeeds "s" ∧ ¬ succeeds "t" := by
  have start : Memory.Reachable Memory.numerals (Memory.empty true) :=
    .start (show Memory.ofResources Memory.numerals true [] = .ok _ from rfl)
  have reachable := start.answer (.create (certified "s"))
  have stored : ∀ object ∈ ((Memory.empty true).answer Memory.numerals
      (.create (certified "s"))).state.objects, Manifest.WellFormed object := by
    intro object member
    obtain rfl := List.mem_singleton.mp member
    exact .ordinary rfl rfl rfl (.inr ⟨_, rfl⟩) (.inr ⟨_, rfl⟩) (.inl rfl) (by decide) (by decide)
  have parental (name : String) :
      Revision.WellFormed (securedBy (.text name) [] true).parent.definition := by
    have absent : Fields.Open (securedBy (.text name) [] true).parent.definition.metadata
        ["labels"] := Fields.open_cons_iff.mpr (.inl rfl)
    refine ⟨.ordinary rfl rfl rfl (.inr ⟨_, rfl⟩) (.inl rfl) (.inl rfl) (by decide) (by decide),
      absent, fun _ _ _ => (nomatch ·), ?_, ?_⟩
    · exact ⟨_, rfl, Fields.open_of_get rfl⟩
    · intro value read
      exact .inr ⟨name, (Except.ok.inj read).symm⟩
  have wellFormed : ∀ declared ∈ [bare "a", converted (.object [("name", .text "b")])],
      Manifest.WellFormed declared := by
    have ordinary : Manifest.WellFormed (bare "a") :=
      .ordinary rfl rfl rfl (.inr ⟨_, rfl⟩) (.inl rfl) (.inl rfl) (by decide) (by decide)
    simpa using ⟨ordinary, wellFormed_converted⟩
  have succeeds (name : String) := succeeds_iff (securedBy .null [] true).establisher
    Settings.defaults [bare "a", converted (.object [("name", .text "b")])]
    (securedBy (.text name) [] true).parent.definition (.bool true) reachable stored
    (parental name) wellFormed rfl
  refine ⟨_, _, rfl, rfl, ?_, ?_⟩
  · obtain ⟨revision, viewed, succeeds⟩ := succeeds "s"
    obtain rfl := Except.ok.inj viewed
    refine (succeeds _ rfl).mpr (.inr ⟨⟨.text "test", .text "Secret", .text "v1", .text "s"⟩, _,
      [99, 97], rfl, rfl, "tls.crt", _, "Y2E=", rfl, rfl, rfl, by rfl, by simp⟩)
  · obtain ⟨revision, viewed, succeeds⟩ := succeeds "t"
    obtain rfl := Except.ok.inj viewed
    intro success
    obtain ⟨unnamed, _⟩ | ⟨key, secret, _, named, found, _⟩ := (succeeds _ rfl).mp success
    · contradiction
    · obtain rfl := Option.some.inj (Except.ok.inj named)
      contradiction

end Undertaking

end ManifestOwnership
