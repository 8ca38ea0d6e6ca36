import ManifestOwnership.Proofs.OwnerReference.Merge
import ManifestOwnership.Proofs.Store.Reply
import ManifestOwnership.Proofs.Establish.Preparation

/-! # Establishing one object

What a pass does to a store for one declared object, as a relation between the store before and
after. `Pass.Plan` says which object a write starts from and whose owners the revision joins, and
`Pass.Effect` what the write leaves. `yields_establishOne_iff` shows that a pass does exactly this.
-/

namespace ManifestOwnership

open Store

variable {issuer : Issuer} {memory after : Memory}

/-- A manifest that carries the version of another one. -/
def Manifest.versioned (current desired : Value) : Value :=
  desired.withMetadata (Fields.set desired.metadata "resourceVersion"
    (Fields.get current.metadata "resourceVersion"))

/-- A formed manifest is shown under what it says itself. -/
theorem Manifest.Formed.reference_eq {definition : Value} (formed : Manifest.Formed definition) :
    TypedReference.ofManifest definition = .ok
      ⟨((definition.get? "apiVersion").getD .null).orElse (.text ""),
        ((definition.get? "kind").getD .null).orElse (.text ""),
        (Fields.get definition.metadata "name").orElse (.text "")⟩ := by
  rw [TypedReference.ofManifest, formed.fieldOrEmpty_metadata]
  obtain ⟨content, fields, rfl, _⟩ := formed
  rfl

/-- Manifests that agree on the name are shown under one reference. -/
theorem Manifest.Agree.reference_eq {aside : List String} {first second : Value}
    (agree : Manifest.Agree aside first second) (kept : "name" ∉ aside) :
    TypedReference.ofManifest first = TypedReference.ofManifest second := by
  rw [agree.left.reference_eq, agree.right.reference_eq, agree.content _ (by decide),
    agree.content _ (by decide), agree.get kept]

/-- A formed manifest can be named in messages. -/
theorem Manifest.Formed.exists_identity {definition : Value}
    (formed : Manifest.Formed definition) :
    ∃ identity, Manifest.identity definition = .ok identity := by
  rw [Manifest.identity, formed.fieldOrEmpty_metadata]
  obtain ⟨content, fields, rfl, _⟩ := formed
  exact ⟨_, rfl⟩

namespace Pass

variable {pass : Pass} {key : ObjectKey} {declared desired current object final : Value}
  {outcome : Outcome}

/-- How a pass writes a desired object, given what the store holds under its identity: the outcome,
the object that the write starts from, and the one whose owners the revision joins. -/
inductive Plan (pass : Pass) (desired : Value) :
    Option Value → Outcome → Value → Value → Prop where
  | create (control : pass.takesControl = true) : Plan pass desired none .created desired desired
  | update {current : Value} (control : pass.takesControl = true) :
      Plan pass desired (some current) .updated (Manifest.versioned current desired) current
  | join {current : Value} (mere : pass.takesControl = false) :
      Plan pass desired (some current) .updated current current

def target (pass : Pass) (refs : List OwnerReference) (base : Value) : Value :=
  Manifest.withOwners (pass.parent.reference.merge pass.takesControl refs) base

/-- What a pass does to a store for a desired object of a given identity. -/
inductive Effect (issuer : Issuer) (pass : Pass) (memory : Memory) (desired : Value)
    (key : ObjectKey) : Value → Outcome → Memory → Prop where
  | skip (mere : pass.takesControl = false) (absent : memory.find? key = none) :
      Effect issuer pass memory desired key desired .skipped memory
  | write {outcome : Outcome} {base source final : Value} {refs : List OwnerReference}
      {own : ObjectKey} (plan : pass.Plan desired (memory.find? key) outcome base source)
      (owners : Manifest.owners source = .ok refs) (atOwn : Manifest.key base = .ok own)
      (shown : final = if pass.takesControl then pass.target refs base else desired) :
      Effect issuer pass memory desired key final outcome
        (memory.written issuer (memory.before own) own (pass.target refs base))

theorem outcome_owned (pass : Pass) (control : Bool) (object target : Value) :
    (pass.owned control object target).outcome = Manifest.owners object >>= fun refs =>
      Manifest.setOwners (pass.parent.reference.merge control refs) target := by
  rw [owned]
  cases control <;> simp

def request (desired : Value) : Request :=
  .get ((desired.get? "apiVersion").getD .null) ((desired.get? "kind").getD .null)
    (Fields.get desired.metadata "name") (Fields.get desired.metadata "namespace")

theorem reading_eq (formed : Manifest.Formed desired) :
    reading desired = .ok (request desired) := by
  rw [reading, formed.field_metadata]
  obtain ⟨content, fields, rfl, found⟩ := formed
  rfl

/-- What can be read under its identity is formed. -/
theorem formed_of_reading {request : Request} (success : reading desired = .ok request) :
    Manifest.Formed desired := by
  simp only [reading, bind_eq_ok_iff] at success
  obtain ⟨metadata, read, _, _, _, _, _, named, _⟩ := success
  obtain ⟨fields, rfl, _⟩ := Value.field_eq_ok_iff.mp named
  exact Manifest.formed_iff_field.mpr ⟨fields, read⟩

theorem atVersion_eq (formed : Manifest.Formed current) (formed' : Manifest.Formed desired)
    (given : (Fields.get current.metadata "resourceVersion").truthy = true) :
    atVersion current desired = .ok (Manifest.versioned current desired) := by
  rw [atVersion, formed.fieldOrEmpty_metadata, formed'.field_metadata]
  simp only [ok_bind, Value.field, Value.fields, Except.map, given, if_true, Value.setField]
  exact formed'.setField_metadata _

theorem outcome_owned_eq_ok_iff {control : Bool} (flag : pass.takesControl = control)
    (formed : Manifest.Formed desired) :
    (pass.owned control object desired).outcome = .ok final ↔
      ∃ refs, Manifest.owners object = .ok refs ∧ pass.target refs desired = final := by
  simp only [outcome_owned, bind_eq_ok_iff, formed.setOwners_eq, Except.ok.injEq, target, flag]

theorem agree_target (formed : Manifest.Formed desired) (refs : List OwnerReference) :
    Manifest.Agree ["ownerReferences"] (pass.target refs desired) desired :=
  formed.agree_withOwners _

/-- A target lists the owners it was made from with the revision merged among them. -/
theorem owners_target (formed : Manifest.Formed desired) {refs : List OwnerReference}
    (owners : Manifest.owners object = .ok refs) : Manifest.owners (pass.target refs desired) =
      .ok (pass.parent.reference.merge pass.takesControl refs) :=
  formed.owners_withOwners (OwnerReference.plain_merge _ (OwnerReference.plain_reference _)
    (Manifest.plain_of_owners owners))

theorem key_target (formed : Manifest.Formed desired) (refs : List OwnerReference) :
    Manifest.key (pass.target refs desired) = Manifest.key desired :=
  (agree_target formed refs).key_eq (by decide) (by decide)

private theorem yields_create_iff (formed : Manifest.Formed desired)
    (atKey : Manifest.key desired = .ok key) (absent : memory.find? key = none) :
    Interaction.Yields (Memory.answer issuer) memory (pass.create desired) (final, outcome) after ↔
      Effect issuer pass memory desired key final outcome after := by
  rw [create]
  cases control : pass.takesControl with
  | false =>
    obtain ⟨identity, named⟩ := formed.exists_identity
    simp only [Bool.false_eq_true, if_false, Interaction.yields_bind_iff,
      Interaction.yields_lift_iff, Interaction.yields_report_iff, Interaction.yields_pure_iff,
      named]
    constructor
    · rintro ⟨_, _, ⟨_, rfl⟩, ⟨⟩, rfl⟩
      exact .skip control absent
    · intro effect
      cases effect with
      | skip => exact ⟨_, _, ⟨rfl, rfl⟩, rfl, rfl⟩
      | write plan =>
        rw [absent] at plan
        cases plan with
        | create control' => simp [control] at control'
  | true =>
    simp only [if_true, Interaction.yields_bind_iff, Interaction.yields_liftReported_iff,
      Interaction.yields_pure_iff, outcome_owned_eq_ok_iff control formed]
    constructor
    · rintro ⟨_, _, ⟨⟨refs, owners, rfl⟩, rfl⟩, stored, _, asked, ⟨⟩, rfl⟩
      obtain ⟨_, own, atOwn, _, _, rfl⟩ := Memory.yields_create_iff.mp asked
      rw [key_target formed] at atOwn
      refine .write ?_ owners atOwn (by simp [control])
      rw [absent]
      exact .create control
    · intro effect
      cases effect with
      | skip mere => simp [control] at mere
      | write plan owners atOwn shown =>
        rw [absent] at plan
        cases plan with
        | create =>
          obtain rfl := Except.ok.inj (atKey.symm.trans atOwn)
          refine ⟨_, _, ⟨⟨_, owners, rfl⟩, rfl⟩, _, _, Memory.yields_create_iff.mpr
            ⟨(agree_target formed _).left.writable, key, ?_, absent, rfl, rfl⟩, ?_, rfl⟩
          · rw [key_target formed, atKey]
          · simp [shown, control]

theorem agree_versioned (formed : Manifest.Formed desired) (current : Value) :
    Manifest.Agree ["resourceVersion"] (Manifest.versioned current desired) desired :=
  formed.agree_set _ _

theorem key_versioned (formed : Manifest.Formed desired) (current : Value) :
    Manifest.key (Manifest.versioned current desired) = Manifest.key desired :=
  (agree_versioned formed current).key_eq (by decide) (by decide)

/-- A target of the version that the store has replaces the object there. -/
theorem yields_ask_update (issuer : Issuer) (sound : memory.Sound)
    (present : memory.find? key = some current)
    {base : Value} {own : ObjectKey} (formed : Manifest.Formed base)
    (atOwn : Manifest.key base = .ok own) (same : own.same key = true)
    (timely : Fields.get base.metadata "resourceVersion" =
      Fields.get current.metadata "resourceVersion") (refs : List OwnerReference) :
    ∃ stored, Interaction.Yields (Memory.answer issuer) memory
      (.ask (.update (pass.target refs base))) stored
      (memory.written issuer (memory.before own) own (pass.target refs base)) := by
  have requested : Fields.get (pass.target refs base).metadata "resourceVersion" =
      Memory.versionOf current := by
    rw [target, Manifest.withOwners, formed.metadata_withMetadata,
      Fields.get_set_of_ne _ _ (by decide), timely,
      Memory.versionOf_eq (sound.held key current present).formed]
  refine ⟨_, Memory.yields_update_iff.mpr ⟨(agree_target formed refs).left.writable, own, current,
    ?_, ?_, ?_, rfl, rfl⟩⟩
  · rw [key_target formed, atOwn]
  · rw [← present]
    exact Content.find?_congr same
  · rw [requested, Memory.isOutdated_self]

private theorem yields_update_iff (sound : memory.Sound) (formed : Manifest.Formed desired)
    (atKey : Manifest.key desired = .ok key) (present : memory.find? key = some current) :
    Interaction.Yields (Memory.answer issuer) memory (pass.update current desired)
        (final, outcome) after ↔
      Effect issuer pass memory desired key final outcome after := by
  have held := sound.held key current present
  rw [update]
  cases control : pass.takesControl with
  | false =>
    simp only [Bool.false_eq_true, if_false, Interaction.yields_bind_iff,
      Interaction.yields_liftReported_iff, Interaction.yields_pure_iff,
      outcome_owned_eq_ok_iff control held.formed]
    constructor
    · rintro ⟨_, _, ⟨⟨refs, owners, rfl⟩, rfl⟩, stored, _, asked, ⟨⟩, rfl⟩
      obtain ⟨_, own, _, atOwn, _, _, _, rfl⟩ := Memory.yields_update_iff.mp asked
      rw [key_target held.formed] at atOwn
      refine .write ?_ owners atOwn (by simp [control])
      rw [present]
      exact .join control
    · intro effect
      cases effect with
      | skip _ absent => simp [present] at absent
      | write plan owners atOwn shown =>
        rw [present] at plan
        cases plan with
        | update control' => simp [control] at control'
        | join =>
          obtain ⟨own, atOwn', same⟩ := held.filed
          obtain rfl := Except.ok.inj (atOwn'.symm.trans atOwn)
          obtain ⟨_, asked⟩ := yields_ask_update issuer sound present held.formed atOwn same rfl _
          exact ⟨_, _, ⟨⟨_, owners, rfl⟩, rfl⟩, _, _, asked, by simp [shown, control], rfl⟩
  | true =>
    simp only [if_true, Interaction.yields_bind_iff, Interaction.yields_liftReported_iff,
      Interaction.yields_lift_iff, atVersion_eq held.formed formed held.version_truthy,
      Interaction.yields_pure_iff]
    constructor
    · rintro ⟨_, _, ⟨⟨⟩, rfl⟩, _, _, ⟨owned, rfl⟩, stored, _, asked, ⟨⟩, rfl⟩
      obtain ⟨refs, owners, rfl⟩ :=
        (outcome_owned_eq_ok_iff control ((agree_versioned formed current).left)).mp owned
      obtain ⟨_, own, _, atOwn, _, _, _, rfl⟩ := Memory.yields_update_iff.mp asked
      rw [key_target ((agree_versioned formed current).left)] at atOwn
      refine .write ?_ owners atOwn (by simp [control])
      rw [present]
      exact .update control
    · intro effect
      cases effect with
      | skip mere => simp [control] at mere
      | write plan owners atOwn shown =>
        rw [present] at plan
        cases plan with
        | join mere => simp [control] at mere
        | update =>
          have formed' := (agree_versioned formed current).left
          rw [key_versioned formed] at atOwn
          obtain rfl := Except.ok.inj (atKey.symm.trans atOwn)
          obtain ⟨_, asked⟩ := yields_ask_update issuer sound present formed'
            ((key_versioned formed current).trans atKey) (ObjectKey.same_refl key)
            (by rw [Manifest.versioned, formed.metadata_withMetadata, Fields.get_set_self]) _
          exact ⟨_, _, ⟨rfl, rfl⟩, _, _,
            ⟨(outcome_owned_eq_ok_iff control formed').mpr ⟨_, owners, rfl⟩, rfl⟩, _, _, asked,
            by simp [shown, control], rfl⟩

private theorem yields_apply_iff_of_reply (formed : Manifest.Formed desired)
    {reply : Except Fault Value}
    (replied : (memory.answer issuer (request desired)).reply = reply) :
    Interaction.Yields (Memory.answer issuer) memory (pass.apply desired) (final, outcome) after ↔
      Interaction.Yields (Memory.answer issuer) memory
        (match reply with
          | .ok current =>
            if current.isNull then pass.create desired else pass.update current desired
          | .error fault => if fault.isObjectMissing then pass.create desired else .fail fault)
        (final, outcome) after := by
  subst replied
  simp only [apply, Interaction.yields_bind_iff, Interaction.yields_lift_iff, reading_eq formed,
    Except.ok.injEq, Interaction.yields_tryAsk_iff]
  constructor
  · rintro ⟨_, _, ⟨rfl, rfl⟩, _, _, ⟨rfl, rfl⟩, success⟩
    exact success
  · intro success
    exact ⟨_, _, ⟨rfl, rfl⟩, _, _, ⟨rfl, rfl⟩, success⟩

/-- A pass reads a desired object under its identity and does to the store what it has to. -/
theorem yields_apply_iff (sound : memory.Sound) (formed : Manifest.Formed desired) :
    Interaction.Yields (Memory.answer issuer) memory (pass.apply desired) (final, outcome) after ↔
      ∃ key, Manifest.key desired = .ok key ∧
        Effect issuer pass memory desired key final outcome after := by
  cases atKey : Manifest.key desired with
  | error fault =>
    obtain ⟨reply, present⟩ := Memory.reply_get_of_error atKey
    rw [yields_apply_iff_of_reply formed reply]
    simp [present]
  | ok key =>
    simp only [Except.ok.injEq, exists_eq_left']
    cases found : memory.find? key with
    | none =>
      obtain ⟨fault, reply, missing⟩ := Memory.reply_get_of_none issuer atKey found
      rw [yields_apply_iff_of_reply formed reply]
      simp only [missing, if_true]
      exact yields_create_iff formed atKey found
    | some current =>
      have present : current.isNull = false := (sound.held key current found).formed.ne_null
      rw [yields_apply_iff_of_reply formed (Memory.reply_get_of_some atKey found)]
      simp only [present, Bool.false_eq_true, if_false]
      exact yields_update_iff sound formed atKey found

/-- What a pass shows of an established object is a form of the desired one. -/
theorem Effect.agree_final (formed : Manifest.Formed desired)
    (effect : Effect issuer pass memory desired key final outcome after) :
    Manifest.Agree ["ownerReferences", "resourceVersion"] final desired := by
  cases effect with
  | skip => exact .refl formed
  | write plan _ _ shown =>
    subst shown
    generalize memory.find? key = found at plan
    cases plan with
    | create control =>
      rw [if_pos control]
      exact (agree_target formed _).mono (by simp)
    | update control =>
      rw [if_pos control]
      exact ((agree_target (agree_versioned formed _).left _).mono (by simp)).trans
        ((agree_versioned formed _).mono (by simp))
    | join mere =>
      rw [if_neg (by simp [mere])]
      exact .refl formed

/-- Only an object that can be read under its identity is established. -/
theorem formed_of_yields_apply {result : Value × Outcome}
    (success : Interaction.Yields (Memory.answer issuer) memory (pass.apply desired) result after) :
    Manifest.Formed desired := by
  simp only [apply, Interaction.yields_bind_iff, Interaction.yields_lift_iff] at success
  obtain ⟨_, _, ⟨read, _⟩, _⟩ := success
  exact formed_of_reading read

/-- A declared object has a desired form with an identity. -/
structure Prepared (pass : Pass) (declared desired : Value) (key : ObjectKey) : Prop where
  outcome : (pass.prepare declared).outcome = .ok desired
  formed : Manifest.Formed desired
  atKey : Manifest.key desired = .ok key

/-- A declared object is established by preparing it and having the effect of its desired form. -/
theorem yields_establishOne_iff (sound : memory.Sound) {result : Established} :
    Interaction.Yields (Memory.answer issuer) memory (pass.establishOne declared) result after ↔
      ∃ desired key final, pass.Prepared declared desired key ∧
        Effect issuer pass memory desired key final result.outcome after ∧
        TypedReference.ofManifest desired = .ok result.reference := by
  simp only [establishOne, Interaction.yields_bind_iff, Interaction.yields_liftReported_iff,
    Interaction.yields_lift_iff, Interaction.yields_report_iff, Interaction.yields_pure_iff]
  constructor
  · rintro ⟨desired, _, ⟨prepared, rfl⟩, ⟨final, outcome⟩, _, applied, reference, _,
      ⟨shown, rfl⟩, identity, _, ⟨_, rfl⟩, rfl, rfl⟩
    have formed := formed_of_yields_apply applied
    obtain ⟨key, atKey, effect⟩ := (yields_apply_iff sound formed).mp applied
    rw [(effect.agree_final formed).reference_eq (by decide)] at shown
    exact ⟨desired, key, final, ⟨prepared, formed, atKey⟩, effect, shown⟩
  · rintro ⟨desired, key, final, ⟨prepared, formed, atKey⟩, effect, shown⟩
    have agree := effect.agree_final formed
    have applied := (yields_apply_iff sound formed).mpr ⟨key, atKey, effect⟩
    obtain ⟨identity, named⟩ := agree.left.exists_identity
    refine ⟨desired, _, ⟨prepared, rfl⟩, (final, result.outcome), _, applied, result.reference, _,
      ⟨?_, rfl⟩, identity, _, ⟨named, rfl⟩, rfl, rfl⟩
    rw [agree.reference_eq (by decide), shown]

end Pass

end ManifestOwnership
