import ManifestOwnership.Proofs.Establish.Run

/-! # Control over a history of passes

Passes of any revisions follow one another. The revision that took control of an identity last is
the only one that may claim it, and it does until it makes a mere owner of itself; whoever wrote the
object stays among its owners. An identity is `Governed` by the one that took control: a control
pass over the identity brings that about, and a pass that takes no control keeps it.
-/

namespace ManifestOwnership

open Store Interaction

variable {issuer : Issuer} {memory middle after : Memory} {pass : Pass} {key own : ObjectKey}
  {desired : Value} {objects : List Value} {outcome : Outcome} {results : List Established}
  {ruler owner : OwnerReference} {holds : Prop}

namespace Store.Memory

/-- The object under an identity has owners that a revision rules. -/
def Governed (memory : Memory) (key : ObjectKey) (ruler : OwnerReference) (holds : Prop) : Prop :=
  ∃ object refs, memory.find? key = some object ∧ Manifest.owners object = .ok refs ∧
    OwnerReference.Ruled ruler holds refs

def Owned (memory : Memory) (key : ObjectKey) (owner : OwnerReference) : Prop :=
  ∃ object refs, memory.find? key = some object ∧ Manifest.owners object = .ok refs ∧
    ∃ ref ∈ refs, ref.sameKey owner = true

theorem Governed.of_find?_eq (governed : memory.Governed key ruler holds)
    (same : after.find? key = memory.find? key) : after.Governed key ruler holds := by
  obtain ⟨object, refs, found, owners, ruled⟩ := governed
  exact ⟨object, refs, same.trans found, owners, ruled⟩

theorem Keeps.owned (keeps : memory.Keeps after) (owned : memory.Owned key owner) :
    after.Owned key owner := by
  obtain ⟨object, refs, found, owners, ref, member, same⟩ := owned
  obtain ⟨object', refs', found', owners', kept⟩ := keeps key object refs found owners
  obtain ⟨ref', member', same'⟩ := kept ref member
  exact ⟨object', refs', found', owners', ref', member', OwnerReference.sameKey_trans same' same⟩

end Store.Memory

namespace Pass

/-- Whether one of some objects is established under an identity. -/
def Places (pass : Pass) (key : ObjectKey) (objects : List Value) : Prop :=
  ∃ declared ∈ objects, ∃ final, pass.establisher.finalKey pass.settings pass.parent declared =
    .ok final ∧ final.same key = true

namespace Leaves

variable (leaves : Leaves issuer pass memory desired own outcome after)

include leaves

/-- Taking control of an object makes the revision its ruler. -/
theorem governed_of_control (control : pass.takesControl = true) (same : own.same key = true) :
    after.Governed key pass.parent.reference True := by
  cases leaves with
  | skipped skips => simp [Pass.skips, control] at skips
  | @wrote stored _ _ wrote =>
    obtain ⟨refs, _, merged⟩ := wrote.owners_stored
    rw [control] at merged
    exact ⟨stored, _, wrote.find?_of_same same, merged, OwnerReference.ruled_takeControl _ refs⟩

/-- A mere owner leaves the ruler in place, unless it is the ruler itself. -/
theorem governed_of_mere (mere : pass.takesControl = false)
    (governed : memory.Governed key ruler holds) :
    after.Governed key ruler
      (holds ∧ ¬(pass.parent.reference.sameKey ruler = true ∧ own.same key = true)) := by
  cases same : own.same key with
  | false => simpa using governed.of_find?_eq (leaves.find?_other same)
  | true =>
    obtain ⟨object, refs, found, owners, ruled⟩ := governed
    have here : memory.find? own = some object := (Content.find?_congr same).trans found
    cases leaves with
    | skipped skips => simp [Pass.skips, here] at skips
    | @wrote stored _ _ wrote =>
      have merged := wrote.owners_merged here owners
      rw [mere] at merged
      refine ⟨stored, _, wrote.find?_of_same same, merged, ?_⟩
      simpa [OwnerReference.merge] using ruled.join pass.parent.reference

/-- Whoever writes an object is among its owners. -/
theorem owned (writes : outcome ≠ .skipped) (same : own.same key = true) :
    after.Owned key pass.parent.reference := by
  cases leaves with
  | skipped => exact absurd rfl writes
  | @wrote stored _ _ wrote =>
    obtain ⟨refs, _, merged⟩ := wrote.owners_stored
    exact ⟨stored, _, wrote.find?_of_same same, merged,
      OwnerReference.exists_mem_merge _ _ refs⟩

end Leaves

@[simp] theorem not_places_nil : ¬ pass.Places key [] := by
  simp [Places]

theorem Prepared.places_cons_iff {declared : Value} {rest : List Value}
    (prepared : pass.Prepared declared desired own) :
    pass.Places key (declared :: rest) ↔ own.same key = true ∨ pass.Places key rest := by
  simp [Places, prepared.finalKey_eq]

/-- A control pass over an identity makes the revision its ruler. -/
theorem governed_of_control (control : pass.takesControl = true)
    (success : Yields (Memory.answer issuer) memory (pass.establishAll objects) results after)
    (sound : memory.Sound)
    (reason : pass.Places key objects ∨ memory.Governed key pass.parent.reference True) :
    after.Governed key pass.parent.reference True := by
  induction objects generalizing memory results with
  | nil =>
    obtain ⟨_, rfl⟩ := yields_establishAll_nil_iff.mp success
    exact reason.resolve_left not_places_nil
  | cons declared rest ih =>
    obtain ⟨result, middle, others, one, all, _⟩ := yields_establishAll_cons_iff.mp success
    obtain ⟨desired, own, prepared, _, leaves⟩ := leaves_of_yields sound one
    refine ih all (sound.yields one) ?_
    cases same : own.same key with
    | true => exact .inr (leaves.governed_of_control control same)
    | false =>
      rw [prepared.places_cons_iff, same] at reason
      rcases reason with (here | later) | governed
      · simp at here
      · exact .inl later
      · exact .inr (governed.of_find?_eq (leaves.find?_other same))

/-- A pass without control leaves the ruler in place, and only the ruler itself gives up control. -/
theorem governed_of_mere (mere : pass.takesControl = false)
    (success : Yields (Memory.answer issuer) memory (pass.establishAll objects) results after)
    (sound : memory.Sound) (governed : memory.Governed key ruler holds) :
    after.Governed key ruler
      (holds ∧ ¬(pass.parent.reference.sameKey ruler = true ∧ pass.Places key objects)) := by
  induction objects generalizing memory results holds with
  | nil =>
    obtain ⟨_, rfl⟩ := yields_establishAll_nil_iff.mp success
    simpa using governed
  | cons declared rest ih =>
    obtain ⟨result, middle, others, one, all, _⟩ := yields_establishAll_cons_iff.mp success
    obtain ⟨desired, own, prepared, _, leaves⟩ := leaves_of_yields sound one
    rw [prepared.places_cons_iff, and_or_left, not_or, ← and_assoc]
    exact ih all (sound.yields one) (leaves.governed_of_mere mere governed)

/-- A pass loses no owner of any object. -/
theorem keeps_of_yields
    (success : Yields (Memory.answer issuer) memory (pass.establishAll objects) results after)
    (sound : memory.Sound) : memory.Keeps after := by
  refine yields_establishAll_induction (motive := memory.Keeps) success sound (.refl memory) ?_
  intro declared _ before after result sound' earlier one
  obtain ⟨_, _, _, _, leaves⟩ := leaves_of_yields sound' one
  exact earlier.trans leaves.keeps

/-- A pass that writes an object under an identity is among its owners at the end. -/
theorem owned_of_yields
    (success : Yields (Memory.answer issuer) memory (pass.establishAll objects) results after)
    (sound : memory.Sound) {declared : Value} {result : Established}
    (member : (declared, result) ∈ objects.zip results) (writes : result.outcome ≠ .skipped)
    (final : pass.establisher.finalKey pass.settings pass.parent declared = .ok own)
    (same : own.same key = true) : after.Owned key pass.parent.reference := by
  induction objects generalizing memory results with
  | nil => simp at member
  | cons first rest ih =>
    obtain ⟨result', middle, others, one, all, rfl⟩ := yields_establishAll_cons_iff.mp success
    have sound' := sound.yields one
    rw [List.zip_cons_cons, List.mem_cons] at member
    rcases member with here | later
    · obtain ⟨rfl, rfl⟩ := Prod.mk.inj here
      obtain ⟨desired, own', prepared, _, leaves⟩ := leaves_of_yields sound one
      obtain rfl := Except.ok.inj (final.symm.trans prepared.finalKey_eq)
      exact (keeps_of_yields all sound').owned (leaves.owned writes same)
    · exact ih all sound' later

end Pass

/-- A pass that came to its end, with what it established. -/
structure Stage where
  undertaking : Undertaking
  results : List Established

namespace Stage

/-- Whether the pass wrote an object under an identity. -/
def Writes (stage : Stage) (key : ObjectKey) : Prop :=
  ∃ declared result, (declared, result) ∈ stage.undertaking.objects.zip stage.results ∧
    result.outcome ≠ .skipped ∧
      ∃ final, stage.undertaking.finalKey declared = .ok final ∧ final.same key = true

def reference (stage : Stage) : OwnerReference :=
  stage.undertaking.parent.reference

/-- Whether the pass made the revision of a reference a mere owner of an identity. -/
def Resigns (stage : Stage) (ruler : OwnerReference) (key : ObjectKey) : Prop :=
  stage.undertaking.takesControl = false ∧ stage.reference.sameKey ruler = true ∧
    stage.undertaking.Declares key

/-- A pass for bare objects that all came out alike. -/
def ofNames (revision : String) (objects : List String) (control : Bool) (outcome : Outcome) :
    Stage where
  undertaking := .ofNames revision objects control
  results := objects.map fun name => ⟨⟨.text "v1", .text "Thing", .text name⟩, outcome⟩

end Stage

variable {stage last : Stage} {stages earlier later : List Stage}

/-- Passes that succeeded one after another. -/
inductive History (issuer : Issuer) : Memory → List Stage → Memory → Prop where
  | nil {memory : Memory} : History issuer memory [] memory
  | cons {memory middle after : Memory} {stage : Stage} {stages : List Stage}
      (success : Yields (Memory.answer issuer) memory stage.undertaking.activity stage.results
        middle)
      (rest : History issuer middle stages after) : History issuer memory (stage :: stages) after

namespace History

theorem split (history : History issuer memory (earlier ++ later) after) :
    ∃ middle, History issuer memory earlier middle ∧ History issuer middle later after := by
  induction earlier generalizing memory with
  | nil => exact ⟨memory, .nil, history⟩
  | cons stage stages ih =>
    obtain _ | ⟨success, rest⟩ := history
    obtain ⟨middle, front, back⟩ := ih rest
    exact ⟨middle, .cons success front, back⟩

theorem sound (history : History issuer memory stages after) (sound : memory.Sound) :
    after.Sound := by
  induction history with
  | nil => exact sound
  | cons success _ ih => exact ih (sound.yields success)

/-- No pass of a history loses an owner. -/
theorem keeps (history : History issuer memory stages after) (sound : memory.Sound) :
    memory.Keeps after := by
  induction history with
  | @nil memory => exact .refl memory
  | cons success _ ih =>
    obtain ⟨bundle, _, _, all⟩ := Undertaking.yields_activity_iff.mp success
    exact (Pass.keeps_of_yields all sound).trans (ih (sound.yields success))

/-- Whoever wrote an object in a history is still among its owners. -/
theorem owned (history : History issuer memory stages after) (sound : memory.Sound)
    (member : stage ∈ stages) (writes : stage.Writes key) : after.Owned key stage.reference := by
  induction history with
  | nil => simp at member
  | cons success rest ih =>
    have sound' := sound.yields success
    rcases List.mem_cons.mp member with rfl | later
    · obtain ⟨bundle, _, _, all⟩ := Undertaking.yields_activity_iff.mp success
      obtain ⟨declared, result, there, written, final, atFinal, same⟩ := writes
      exact (rest.keeps sound').owned
        (Pass.owned_of_yields all sound there written atFinal same)
    · exact ih sound' later

/-- As long as nobody else takes control the ruler stays, and holds control until it resigns. -/
theorem governed (history : History issuer memory stages after) (sound : memory.Sound)
    (undisputed : ∀ stage ∈ stages, stage.undertaking.takesControl = true →
      ¬ stage.undertaking.Declares key)
    (governed : memory.Governed key ruler holds) :
    after.Governed key ruler (holds ∧ ¬ ∃ stage ∈ stages, stage.Resigns ruler key) := by
  induction history generalizing holds with
  | nil => simpa using governed
  | @cons memory middle after stage stages success rest ih =>
    obtain ⟨here, there⟩ := List.forall_mem_cons.mp undisputed
    have sound' := sound.yields success
    obtain ⟨bundle, _, _, all⟩ := Undertaking.yields_activity_iff.mp success
    have step : middle.Governed key ruler (holds ∧ ¬ stage.Resigns ruler key) := by
      cases control : stage.undertaking.takesControl with
      | true =>
        simpa [Stage.Resigns, control] using governed.of_find?_eq
          (stage.undertaking.find?_of_not_declares all sound (here control))
      | false =>
        have mere : (stage.undertaking.pass bundle).takesControl = false := control
        have step : middle.Governed key ruler
            (holds ∧ ¬(stage.reference.sameKey ruler = true ∧ stage.undertaking.Declares key)) :=
          Pass.governed_of_mere mere all sound governed
        simpa [Stage.Resigns, control] using step
    simpa only [List.exists_mem_cons_iff, not_or, and_assoc] using ih sound' there step

/-- The owners of an identity after a history of passes. The revision that took control of it last
is the only one that claims control, and it does unless it resigned later; it is an owner that must
not go before the object; and so is every revision an owner whose pass wrote the object. -/
theorem control_handover (reachable : memory.Reachable issuer)
    (history : History issuer memory (earlier ++ last :: later) after)
    (control : last.undertaking.takesControl = true) (declares : last.undertaking.Declares key)
    (undisputed : ∀ stage ∈ later, stage.undertaking.takesControl = true →
      ¬ stage.undertaking.Declares key) :
    ∃ object refs, after.find? key = some object ∧ Manifest.owners object = .ok refs ∧
      OwnerReference.Ruled last.reference (¬ ∃ stage ∈ later, stage.Resigns last.reference key)
        refs ∧
      ∀ stage ∈ earlier ++ last :: later, stage.Writes key →
        ∃ ref ∈ refs, ref.sameKey stage.reference = true := by
  obtain ⟨before, front, rest⟩ := history.split
  have sound := front.sound reachable.sound
  obtain _ | ⟨success, back⟩ := rest
  obtain ⟨bundle, _, _, all⟩ := Undertaking.yields_activity_iff.mp success
  have inControl : (last.undertaking.pass bundle).takesControl = true := control
  have taken : Memory.Governed _ key last.reference True :=
    Pass.governed_of_control inControl all sound (.inl declares)
  obtain ⟨object, refs, found, owners, ruled⟩ :=
    back.governed (sound.yields success) undisputed taken
  refine ⟨object, refs, found, owners, by simpa using ruled, ?_⟩
  intro stage member writes
  obtain ⟨object', refs', found', owners', owned⟩ := history.owned reachable.sound member writes
  obtain rfl := Option.some.inj (found.symm.trans found')
  obtain rfl := Except.ok.inj (owners.symm.trans owners')
  exact owned

/-- A revision takes over from another one and resigns: both are owners, and none is in control. -/
theorem control_handover_ofNames : ∃ after object refs,
    History Memory.numerals (Memory.empty true)
      ([.ofNames "q" ["a"] true .created] ++ .ofNames "r" ["a"] true .updated ::
        [.ofNames "r" ["a"] false .updated]) after ∧
    after.find? ⟨.null, .text "Thing", .text "v1", .text "a"⟩ = some object ∧
    Manifest.owners object = .ok refs ∧
    (∀ ref ∈ refs, ref.isController = false) ∧
    (∃ ref ∈ refs, ref.sameKey (Stage.ofNames "q" ["a"] true .created).reference = true) ∧
    ∃ ref ∈ refs, ref.sameKey (Stage.ofNames "r" ["a"] true .updated).reference = true := by
  have start : Memory.Reachable Memory.numerals (Memory.empty true) :=
    .start (show Memory.ofResources Memory.numerals true [] = .ok _ from rfl)
  have declares (revision : String) (control : Bool) :
      (Undertaking.ofNames revision ["a"] control).Declares
        ⟨.null, .text "Thing", .text "v1", .text "a"⟩ :=
    ⟨Undertaking.bare "a", List.mem_singleton_self _, _, rfl, rfl⟩
  have history : History Memory.numerals (Memory.empty true)
      ([.ofNames "q" ["a"] true .created] ++ .ofNames "r" ["a"] true .updated ::
        [.ofNames "r" ["a"] false .updated]) _ :=
    .cons ⟨rfl, rfl⟩ (.cons ⟨rfl, rfl⟩ (.cons ⟨rfl, rfl⟩ .nil))
  obtain ⟨object, refs, found, owners, ruled, owned⟩ := by
    refine control_handover start history rfl (declares "r" true) ?_
    intro stage member control
    obtain rfl := List.mem_singleton.mp member
    cases control
  refine ⟨_, object, refs, history, found, owners, fun ref member => ?_, ?_, ruled.present⟩
  · by_contra claims
    have controls : ref.isController = true := by simpa using claims
    exact (ruled.flagged ref member (ruled.sole ref member controls)).mp controls
      ⟨_, List.mem_singleton_self _, rfl, rfl, declares "r" false⟩
  · exact owned _ (List.mem_cons_self ..) ⟨_, _, List.mem_cons_self .., by decide, _, rfl, rfl⟩

end History

end ManifestOwnership
