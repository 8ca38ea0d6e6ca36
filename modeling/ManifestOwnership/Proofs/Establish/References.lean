import ManifestOwnership.Proofs.Establish.Identity
import ManifestOwnership.Proofs.Establish.Protocol

/-! # The references that a pass reports

A pass reports one reference for each declared object, in order. On the way to it the object is
renamed, gets the bundle, the version of the object that it replaces and the owners of that object.
None of this but the name reaches the reference: it is what the object declares, under its final
name. So two passes that declare the same report the same, whatever the stores reply to them.
-/

namespace ManifestOwnership

open Store Interaction

variable {σ σ' : Type} {answer : σ → Request → Answer σ Value}
  {answer' : σ' → Request → Answer σ' Value} {source target : σ}

namespace Webhook.Naming

/-- The naming goes by the lead and the label in effect, wherever they come from. -/
theorem run_congr {settings settings' : Settings} {lead lead' label label' : Value}
    (sameLead : lead.orElse (settings.value .webhookNamePrefix) =
      lead'.orElse (settings'.value .webhookNamePrefix))
    (sameLabel : label.orElse (settings.value .parentPackageLabel) =
      label'.orElse (settings'.value .parentPackageLabel)) (definition revision : Value) :
    run settings lead label definition revision =
      run settings' lead' label' definition revision := by
  have search : PackageSearch.run settings label revision =
      PackageSearch.run settings' label' revision := by
    rw [PackageSearch.run, PackageSearch.run, sameLabel]
  rw [run, run, search, sameLead]

end Webhook.Naming

namespace Establisher

/-- The reference to a declared object: what it declares, under its final name. -/
def referenceTo (establisher : Establisher) (settings : Settings) (parent : Revision)
    (declared : Value) : Except Fault TypedReference := do
  let naming ← Webhook.Naming.run settings establisher.lead establisher.label declared
    parent.definition
  return ⟨((declared.get? "apiVersion").getD .null).orElse (.text ""),
    ((declared.get? "kind").getD .null).orElse (.text ""), naming.name.orElse (.text "")⟩

end Establisher

namespace Pass

/-- Metadata that is filled in does not change the naming. -/
theorem naming_withMetadata {declared desired : Value}
    (completed : withMetadata declared = .ok desired)
    (formed : Manifest.Formed desired) (settings : Settings) (lead label revision : Value) :
    Webhook.Naming.run settings lead label declared revision =
      Webhook.Naming.run settings lead label desired revision := by
  obtain ⟨read, same⟩ := fieldOrEmpty_of_withMetadata completed formed
  rw [Webhook.Naming.run, Webhook.Naming.run, read, formed.fieldOrEmpty_metadata, same,
    isConfiguration_withMetadata completed formed]

end Pass

namespace Establisher

variable {establisher : Establisher} {settings : Settings} {parent : Revision}
  {declared renamed : Value}

/-- A declared object is renamed to the name that the naming gives it. -/
theorem naming_of_renamed (success : establisher.renamed settings parent declared = .ok renamed)
    (formed : Manifest.Formed renamed) :
    ∃ naming, Webhook.Naming.run settings establisher.lead establisher.label declared
        parent.definition = .ok naming ∧
      naming.name = Fields.get renamed.metadata "name" := by
  obtain ⟨desired, completed, formed', ⟨ordinary, rfl⟩ | ⟨_, naming, run, rfl⟩⟩ :=
    renamed_cases success formed
  · refine ⟨.ordinary (Fields.get renamed.metadata "name"), ?_, rfl⟩
    have read : (Value.object renamed.metadata).field "name" =
        .ok (Fields.get renamed.metadata "name") := rfl
    rw [Pass.naming_withMetadata completed formed', Webhook.Naming.run,
      formed.fieldOrEmpty_metadata, ok_bind, read, ok_bind, ordinary]
    rfl
  · refine ⟨naming, ?_, ?_⟩
    · rw [Pass.naming_withMetadata completed formed', run]
    · rw [formed'.metadata_withMetadata, Fields.get_set_self]

end Establisher

namespace Pass

variable {pass : Pass} {declared desired final : Value} {outcome : Outcome}
  {exchanges : List (Request × Except Fault Value)} {objects : List Value}
  {result : Established} {results : List Established}

/-- The bundle does not reach the reference. -/
theorem referenceTo_eq (prepared : (pass.prepare declared).outcome = .ok desired)
    (formed : Manifest.Formed desired) :
    pass.establisher.referenceTo pass.settings pass.parent declared =
      TypedReference.ofManifest desired := by
  obtain ⟨renamed, named, injected, formed', metadata⟩ := prepare_cases prepared formed
  obtain ⟨naming, run, name⟩ := Establisher.naming_of_renamed named formed'
  have declares {name : String} (other : name ≠ "metadata") (webhooks : name ≠ "webhooks")
      (spec : name ≠ "spec") : desired.get? name = declared.get? name := by
    rw [Webhook.get?_of_inject injected webhooks spec]
    obtain ⟨whole, completed, formed'', ⟨_, rfl⟩ | ⟨_, _, _, rfl⟩⟩ :=
      Establisher.renamed_cases named formed'
    · exact get?_of_withMetadata completed other
    · rw [Manifest.get?_withMetadata_of_ne _ _ other, get?_of_withMetadata completed other]
  rw [Establisher.referenceTo, run, formed.reference_eq, metadata, ← name,
    declares (by decide) (by decide) (by decide), declares (by decide) (by decide) (by decide)]
  rfl

/-- Whatever is replied, a pass goes on with a form of the desired object that differs from it in
the owners and the version alone. -/
theorem agree_final_of_plays (formed : Manifest.Formed desired)
    (plays : (pass.apply desired).Plays exchanges (.ok (final, outcome))) :
    Manifest.Agree ["ownerReferences", "resourceVersion"] final desired := by
  obtain ⟨reply, later, _, ⟨_, _, _, _, failed⟩ | ⟨_, _, created⟩ | ⟨current, _, _, updated⟩⟩ :=
    plays_apply_cases (reading_eq formed) plays
  · contradiction
  · obtain ⟨_, _, same⟩ | ⟨_, ⟨_, _, _, failed⟩ | ⟨made, reply, addition, _, same⟩⟩ :=
      plays_create formed created
    · obtain ⟨rfl, _⟩ := Prod.mk.inj (Except.ok.inj same)
      exact .refl formed
    · contradiction
    · obtain ⟨_, _, same⟩ := map_eq_ok_iff.mp same.symm
      obtain ⟨rfl, _⟩ := Prod.mk.inj same
      exact (agree_of_owned addition formed).mono (by simp)
  · obtain ⟨_, _, _, failed⟩ | ⟨made, reply, replacement, _, same⟩ := plays_update updated
    · contradiction
    · obtain ⟨_, _, same⟩ := map_eq_ok_iff.mp same.symm
      obtain ⟨rfl, _⟩ := Prod.mk.inj same
      cases control : pass.takesControl with
      | true =>
        rw [if_pos rfl]
        exact agree_of_replacement control replacement formed
      | false =>
        rw [if_neg Bool.false_ne_true]
        exact .refl formed

/-- Whatever is replied, the reference to an established object is the one that it declares. -/
theorem referenceTo_of_yields
    (success : Yields answer source (pass.establishOne declared) result target) :
    pass.establisher.referenceTo pass.settings pass.parent declared = .ok result.reference := by
  simp only [establishOne, yields_bind_iff, yields_liftReported_iff, yields_lift_iff,
    yields_report_iff, yields_pure_iff] at success
  obtain ⟨desired, _, ⟨prepared, rfl⟩, ⟨final, outcome⟩, _, applied, reference, _, ⟨shown, _⟩, _, _,
    _, rfl, _⟩ := success
  have plays := plays_run answer source (pass.apply desired)
  rw [applied.1] at plays
  have formed : Manifest.Formed desired := by
    rw [apply] at applied
    obtain ⟨_, _, read, _⟩ := yields_bind_iff.mp applied
    exact formed_of_reading (yields_lift_iff.mp read).1
  rw [referenceTo_eq prepared formed,
    ← (agree_final_of_plays formed plays).reference_eq (by decide), shown]

/-- The references to established objects are those that they declare, one for each in order. -/
theorem forall_referenceTo_of_yields
    (success : Yields answer source (pass.establishAll objects) results target) :
    List.Forall₂ (fun declared result => pass.establisher.referenceTo pass.settings pass.parent
      declared = .ok result.reference) objects results := by
  induction objects generalizing source results with
  | nil =>
    obtain ⟨rfl, _⟩ := yields_establishAll_nil_iff.mp success
    exact .nil
  | cons declared rest ih =>
    obtain ⟨result, middle, others, one, all, rfl⟩ := yields_establishAll_cons_iff.mp success
    exact .cons (referenceTo_of_yields one) (ih all)

end Pass

namespace Undertaking

variable {results : List Established}

def referenceTo (undertaking : Undertaking) (declared : Value) : Except Fault TypedReference :=
  undertaking.establisher.referenceTo undertaking.settings undertaking.parent declared

/-- Two calls are for the same objects and the same revision, with one lead and one label in effect.
They may differ in all else: who takes control, where secret and service are, and the key. -/
structure DeclaresAlike (first second : Undertaking) : Prop where
  objects : second.objects = first.objects
  revision : second.parent.definition = first.parent.definition
  lead : second.establisher.lead.orElse (second.settings.value .webhookNamePrefix) =
    first.establisher.lead.orElse (first.settings.value .webhookNamePrefix)
  label : second.establisher.label.orElse (second.settings.value .parentPackageLabel) =
    first.establisher.label.orElse (first.settings.value .parentPackageLabel)

/-- Calls that declare alike refer to each object alike. -/
theorem DeclaresAlike.referenceTo_eq {first second : Undertaking}
    (alike : first.DeclaresAlike second) (declared : Value) :
    second.referenceTo declared = first.referenceTo declared := by
  rw [referenceTo, referenceTo, Establisher.referenceTo, Establisher.referenceTo, alike.revision,
    Webhook.Naming.run_congr alike.lead alike.label]

/-- A pass that succeeds against any party reports for each declared object the reference that it
declares. -/
theorem forall_referenceTo_of_yields (undertaking : Undertaking)
    (success : Yields answer source undertaking.activity results target) :
    List.Forall₂ (fun declared result => undertaking.referenceTo declared = .ok result.reference)
      undertaking.objects results := by
  obtain ⟨bundle, middle, _, _, all⟩ := yields_activity_iff_fetch.mp success
  have reported := Pass.forall_referenceTo_of_yields all
  exact reported

/-- The references that are reported are determined by what is declared. -/
theorem mapM_eq_of_forall {refer : Value → Except Fault TypedReference} {objects : List Value}
    (reported : List.Forall₂ (fun declared result => refer declared = .ok result.reference) objects
      results) : objects.mapM refer = .ok (results.map (·.reference)) := by
  induction reported with
  | nil => rfl
  | cons here _ ih =>
    rw [List.mapM_cons, here, ok_bind, ih]
    rfl

/-- Whatever the store replies, a pass that succeeds reports one reference for each declared object,
in order: its API version, its kind and its final name. Hence two passes that declare alike report
the same, whatever the stores reply to each and whatever else the passes differ in. -/
theorem reports_what_is_declared (undertaking : Undertaking)
    (success : Yields answer source undertaking.activity results target) :
    List.Forall₂ (fun declared result =>
        undertaking.referenceTo declared = .ok result.reference) undertaking.objects results ∧
      ∀ (other : Undertaking) (source' target' : σ') (results' : List Established),
        undertaking.DeclaresAlike other →
          Yields answer' source' other.activity results' target' →
            results'.map (·.reference) = results.map (·.reference) := by
  have reported := undertaking.forall_referenceTo_of_yields success
  refine ⟨reported, fun other source' target' results' alike success' => ?_⟩
  have reported' := other.forall_referenceTo_of_yields success'
  have same : other.referenceTo = undertaking.referenceTo := funext alike.referenceTo_eq
  rw [alike.objects, same] at reported'
  exact Except.ok.inj ((mapM_eq_of_forall reported').symm.trans (mapM_eq_of_forall reported))

/-- A call without control, with a lead of its own, another namespace and another key. -/
def reader (undertaking : Undertaking) : Undertaking :=
  { undertaking with
    establisher := ⟨.text "elsewhere", .null, .text "crossplane", .text "ca.crt", .int 1⟩
    control := .bool false }

/-- A store that replies to every read and every update with an object of its own. -/
def parrot (name : String) : Scripted :=
  let reply : Script := .byRules [⟨none, none, none, .ok (bare name)⟩]
  .start (Memory.empty true) reply .byStore reply

/-- A pass that creates a webhook configuration and then replaces it reports the same references as
one that updates what has nothing to do with it. -/
theorem reports_what_is_declared_twins : ∃ results after results' after',
    Yields (Memory.answer Memory.numerals) (Memory.empty true) twins.activity results after ∧
    Yields (Scripted.answer Memory.numerals) (parrot "x") twins.reader.activity results' after' ∧
    results.map (·.outcome) = [.created, .updated] ∧
    results'.map (·.outcome) = [.updated, .updated] ∧
    List.Forall₂ (fun declared result => twins.referenceTo declared = .ok result.reference)
      twins.objects results ∧
    results'.map (·.reference) = results.map (·.reference) := by
  have created : Yields (Memory.answer Memory.numerals) (Memory.empty true) twins.activity _ _ :=
    ⟨rfl, rfl⟩
  have updated : Yields (Scripted.answer Memory.numerals) (parrot "x") twins.reader.activity _ _ :=
    ⟨rfl, rfl⟩
  obtain ⟨reported, alike⟩ := reports_what_is_declared twins created
  exact ⟨_, _, _, _, created, updated, rfl, rfl, reported,
    alike twins.reader _ _ _ ⟨rfl, rfl, rfl, rfl⟩ updated⟩

end Undertaking

end ManifestOwnership
