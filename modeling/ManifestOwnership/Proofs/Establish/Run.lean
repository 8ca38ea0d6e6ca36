import ManifestOwnership.Proofs.Establish.Effect

/-! # A whole pass

`Undertaking` is what a pass is called with. A pass succeeds exactly if the bundle can be fetched,
no object needs a bundle that is not there, and the objects are established one after another. The
bundle is read and nothing else is: it is the same for stores that hold the same secret.
-/

namespace ManifestOwnership

open Store Interaction

variable {issuer : Issuer} {memory memory' after : Memory}

/-- A call to establish the objects of a revision. -/
structure Undertaking where
  establisher : Establisher
  settings : Settings
  objects : List Value
  parent : Revision
  control : Value

namespace Undertaking

variable {undertaking : Undertaking} {bundle : Option Webhook.CABundle}
  {results : List Established}

def activity (undertaking : Undertaking) : Interaction Request Value (List Established) :=
  undertaking.establisher.establish undertaking.settings (.list undertaking.objects)
    undertaking.parent undertaking.control

def first (undertaking : Undertaking) (count : Nat) : Undertaking :=
  { undertaking with objects := undertaking.objects.take count }

def takesControl (undertaking : Undertaking) : Bool :=
  undertaking.control.truthy

def scope (undertaking : Undertaking) : Value :=
  undertaking.establisher.secretScope undertaking.settings undertaking.parent

def fetch (undertaking : Undertaking) : Interaction Request Value (Option Webhook.CABundle) :=
  Webhook.CABundle.fetch undertaking.settings undertaking.parent undertaking.scope
    undertaking.establisher.certificateKey

def pass (undertaking : Undertaking) (bundle : Option Webhook.CABundle) : Pass :=
  ⟨undertaking.establisher, undertaking.settings, undertaking.parent, undertaking.scope, bundle,
    undertaking.control⟩

/-- The pass once the bundle is fetched, as an activity; an event tells its results at the end. -/
def conduct (undertaking : Undertaking) (event : List Established → Log.Event)
    (bundle : Option Webhook.CABundle) : Interaction Request Value (List Established) := do
  if bundle.isNone then
    Establisher.refuseConversion undertaking.objects
  let results ← (undertaking.pass bundle).establishAll undertaking.objects
  .report (event results) (pure results)

/-- A call fetches the bundle and then conducts the pass. -/
theorem exists_activity_eq (undertaking : Undertaking) : ∃ event : List Established → Log.Event,
    undertaking.activity = Establisher.titled (undertaking.fetch >>= undertaking.conduct event) :=
  ⟨_, rfl⟩

/-- The identity under which a declared object is established. -/
def finalKey (undertaking : Undertaking) (declared : Value) : Except Fault ObjectKey :=
  undertaking.establisher.finalKey undertaking.settings undertaking.parent declared

/-- Whether a declared object is established under an identity. -/
def Declares (undertaking : Undertaking) (key : ObjectKey) : Prop :=
  ∃ declared ∈ undertaking.objects, ∃ final, undertaking.finalKey declared = .ok final ∧
    final.same key = true

/-- The identity of the TLS secret, none if the revision names no secret. -/
def secretKey (undertaking : Undertaking) : Except Fault (Option ObjectKey) := do
  let name ← undertaking.parent.secretName
  if !name.truthy then return none
  return some (← ObjectKey.of undertaking.scope (.text "Secret") (.text "v1") name)

/-- Fetching the bundle leaves the store, and depends on nothing but the secret. -/
theorem yields_fetch_congr (success : Yields (Memory.answer issuer) memory undertaking.fetch bundle
      after)
    (same : ∀ key, undertaking.secretKey = .ok (some key) →
      memory.find? key = memory'.find? key) :
    after = memory ∧ Yields (Memory.answer issuer) memory' undertaking.fetch bundle memory' := by
  simp only [fetch, Webhook.CABundle.fetch, yields_bind_iff, yields_lift_iff] at success ⊢
  obtain ⟨name, _, ⟨named, rfl⟩, success⟩ := success
  cases given : name.truthy with
  | false =>
    simp only [given, Bool.not_false, if_true, yields_report_iff, yields_pure_iff] at success
    obtain ⟨rfl, rfl⟩ := success
    refine ⟨rfl, name, memory', ⟨named, rfl⟩, ?_⟩
    simp [given]
  | true =>
    simp only [given, Bool.not_true, Bool.false_eq_true, if_false, yields_report_iff,
      yields_request_iff] at success
    have sameReply : (memory'.answer issuer
        (.get (.text "v1") (.text "Secret") name undertaking.scope)).reply =
          (memory.answer issuer
            (.get (.text "v1") (.text "Secret") name undertaking.scope)).reply := by
      refine (Memory.get_congr fun key atKey => same key ?_).symm
      simp [secretKey, named, given, atKey]
    cases reply : (memory.answer issuer
        (.get (.text "v1") (.text "Secret") name undertaking.scope)).reply with
    | error fault => simp [reply] at success
    | ok secret =>
      simp only [reply, yields_ofExcept_iff] at success
      obtain ⟨held, rfl⟩ := success
      refine ⟨rfl, name, memory', ⟨named, rfl⟩, ?_⟩
      simp only [given, Bool.not_true, Bool.false_eq_true, if_false, yields_report_iff,
        yields_request_iff, sameReply, reply, yields_ofExcept_iff, held, true_and]
      rfl

/-- No pass is refused whose objects do without conversion. -/
theorem outcome_refuseConversion_iff {objects : List Value} :
    (Establisher.refuseConversion objects).outcome = .ok () ↔
      ∀ declared ∈ objects, Webhook.needsConversion declared = .ok false := by
  induction objects with
  | nil => simp [Establisher.refuseConversion]
  | cons declared rest ih =>
    simp only [Establisher.refuseConversion, Log.Reported.outcome_bind, Log.Reported.outcome_lift,
      bind_eq_ok_iff, List.forall_mem_cons]
    cases Webhook.needsConversion declared with
    | error fault => simp
    | ok needs => cases needs <;> simp [ih]

/-- Objects that do without conversion are accepted without a word. -/
theorem refuseConversion_eq {objects : List Value}
    (accepted : ∀ declared ∈ objects, Webhook.needsConversion declared = .ok false) :
    Establisher.refuseConversion objects = pure () := by
  induction objects with
  | nil => rfl
  | cons declared rest ih =>
    obtain ⟨here, there⟩ := List.forall_mem_cons.mp accepted
    rw [Establisher.refuseConversion, here, ← ih there]
    rfl

/-- A pass that is not refused establishes its objects. -/
theorem conduct_eq (undertaking : Undertaking) (event : List Established → Log.Event)
    (accepted : bundle = none → ∀ declared ∈ undertaking.objects,
      Webhook.needsConversion declared = .ok false) :
    undertaking.conduct event bundle =
      (undertaking.pass bundle).establishAll undertaking.objects >>= fun results =>
        .report (event results) (pure results) := by
  rw [conduct]
  cases bundle with
  | some bundle => rfl
  | none =>
    rw [refuseConversion_eq (accepted rfl)]
    rfl

section

variable {σ : Type} {answer : σ → Request → Answer σ Value} {source target : σ}

theorem yields_conduct_iff {event : List Established → Log.Event} :
    Yields answer source (undertaking.conduct event bundle) results target ↔
      (bundle = none → ∀ declared ∈ undertaking.objects,
          Webhook.needsConversion declared = .ok false) ∧
        Yields answer source ((undertaking.pass bundle).establishAll undertaking.objects) results
          target := by
  constructor
  · intro success
    have accepted : bundle = none → ∀ declared ∈ undertaking.objects,
        Webhook.needsConversion declared = .ok false := by
      rintro rfl
      obtain ⟨_, _, judged, _⟩ := yields_bind_iff.mp success
      exact outcome_refuseConversion_iff.mp (yields_liftReported_iff.mp judged).1
    simp only [conduct_eq undertaking event accepted, yields_bind_iff, yields_report_iff,
      yields_pure_iff] at success
    obtain ⟨_, _, all, rfl, rfl⟩ := success
    exact ⟨accepted, all⟩
  · rintro ⟨accepted, all⟩
    rw [conduct_eq undertaking event accepted]
    exact yields_bind_iff.mpr ⟨_, _, all, rfl, rfl⟩

/-- Against any party, a pass succeeds exactly if the bundle can be fetched, no object needs one
that is not there, and all objects are established. -/
theorem yields_activity_iff_fetch :
    Yields answer source undertaking.activity results target ↔
      ∃ bundle middle, Yields answer source undertaking.fetch bundle middle ∧
        (bundle = none → ∀ declared ∈ undertaking.objects,
          Webhook.needsConversion declared = .ok false) ∧
        Yields answer middle ((undertaking.pass bundle).establishAll undertaking.objects) results
          target := by
  obtain ⟨event, same⟩ := undertaking.exists_activity_eq
  simp only [same, Establisher.titled, yields_titled_iff, yields_bind_iff, yields_conduct_iff]

end

/-- Against a store in memory the bundle is fetched without a change to the store. -/
theorem yields_activity_iff :
    Yields (Memory.answer issuer) memory undertaking.activity results after ↔
      ∃ bundle, Yields (Memory.answer issuer) memory undertaking.fetch bundle memory ∧
        (bundle = none → ∀ declared ∈ undertaking.objects,
          Webhook.needsConversion declared = .ok false) ∧
        Yields (Memory.answer issuer) memory
          ((undertaking.pass bundle).establishAll undertaking.objects) results after := by
  rw [yields_activity_iff_fetch]
  constructor
  · rintro ⟨bundle, middle, fetched, rest⟩
    obtain ⟨rfl, _⟩ := yields_fetch_congr fetched fun _ _ => rfl
    exact ⟨bundle, fetched, rest⟩
  · rintro ⟨bundle, fetched, rest⟩
    exact ⟨bundle, memory, fetched, rest⟩

/-- A revision that is given as a manifest is established like its view. -/
theorem establishFor_eq (establisher : Establisher) (settings : Settings)
    (objects parent control : Value) :
    establisher.establishFor settings objects parent control =
      match Revision.ofManifest parent with
      | .ok revision => establisher.establish settings objects revision control
      | .error fault => Establisher.titled (.fail fault) := by
  rw [Establisher.establishFor]
  cases Revision.ofManifest parent <;> rfl

/-- An object with a name and nothing else. -/
def bare (name : String) : Value :=
  .object [("apiVersion", .text "v1"), ("kind", .text "Thing"),
    ("metadata", .object [("name", .text name)])]

/-- A call of a revision of a name for bare objects. -/
def ofNames (revision : String) (objects : List String) (control : Bool) : Undertaking where
  establisher := ⟨.null, .null, .null, .null, .null⟩
  settings := Settings.defaults
  objects := objects.map bare
  parent := {
    definition := bare revision
    kind := .text "Thing"
    apiVersion := .text "v1"
    metadata := .object [("name", .text revision)]
    name := .text revision
    scope := .null
    uid := .null }
  control := .bool control

end Undertaking

namespace Pass

variable {pass : Pass} {declared : Value} {rest : List Value} {results : List Established}

section

variable {σ : Type} {answer : σ → Request → Answer σ Value} {source target : σ}

@[simp] theorem yields_establishAll_nil_iff :
    Yields answer source (pass.establishAll []) results target ↔
      results = [] ∧ target = source := by
  rw [establishAll, yields_pure_iff]
  constructor <;> rintro ⟨rfl, rfl⟩ <;> exact ⟨rfl, rfl⟩

theorem yields_establishAll_cons_iff :
    Yields answer source (pass.establishAll (declared :: rest)) results target ↔
      ∃ result middle others, Yields answer source (pass.establishOne declared) result middle ∧
        Yields answer middle (pass.establishAll rest) others target ∧
        results = result :: others := by
  simp only [establishAll, yields_bind_iff, yields_pure_iff]
  constructor
  · rintro ⟨result, middle, one, others, _, all, rfl, rfl⟩
    exact ⟨result, middle, others, one, all, rfl⟩
  · rintro ⟨result, middle, others, one, all, rfl⟩
    exact ⟨result, middle, one, others, _, all, rfl, rfl⟩

theorem yields_establishAll_append_iff {front back : List Value} :
    Yields answer source (pass.establishAll (front ++ back)) results target ↔
      ∃ early middle late, Yields answer source (pass.establishAll front) early middle ∧
        Yields answer middle (pass.establishAll back) late target ∧
        results = early ++ late := by
  induction front generalizing source results with
  | nil =>
    simp only [List.nil_append, yields_establishAll_nil_iff]
    constructor
    · intro success
      exact ⟨[], source, results, ⟨rfl, rfl⟩, success, rfl⟩
    · rintro ⟨_, _, late, ⟨rfl, rfl⟩, success, rfl⟩
      exact success
  | cons declared rest ih =>
    simp only [List.cons_append, yields_establishAll_cons_iff, ih]
    constructor
    · rintro ⟨result, _, _, one, ⟨early, middle, late, front, back, rfl⟩, rfl⟩
      exact ⟨result :: early, middle, late, ⟨result, _, early, one, front, rfl⟩, back, rfl⟩
    · rintro ⟨_, middle, late, ⟨result, _, early, one, front, rfl⟩, back, rfl⟩
      exact ⟨result, _, _, one, ⟨early, middle, late, front, back, rfl⟩, rfl⟩

/-- As many results as objects. -/
theorem length_of_yields {objects : List Value}
    (success : Yields answer source (pass.establishAll objects) results target) :
    results.length = objects.length := by
  induction objects generalizing source results with
  | nil =>
    obtain ⟨rfl, _⟩ := yields_establishAll_nil_iff.mp success
    rfl
  | cons declared rest ih =>
    obtain ⟨result, middle, others, _, all, rfl⟩ := yields_establishAll_cons_iff.mp success
    rw [List.length_cons, List.length_cons, ih all]

end

/-- What holds of a store and stays so with each object holds after all of them. -/
theorem yields_establishAll_induction {motive : Memory → Prop} {objects : List Value}
    (success : Yields (Memory.answer issuer) memory (pass.establishAll objects) results after)
    (sound : memory.Sound) (start : motive memory)
    (step : ∀ declared ∈ objects, ∀ before after result, before.Sound → motive before →
      Yields (Memory.answer issuer) before (pass.establishOne declared) result after →
        motive after) : motive after := by
  induction objects generalizing memory results with
  | nil =>
    obtain ⟨_, rfl⟩ := yields_establishAll_nil_iff.mp success
    exact start
  | cons declared rest ih =>
    obtain ⟨result, middle, others, one, all, _⟩ := yields_establishAll_cons_iff.mp success
    exact ih all (sound.yields one)
      (step declared (List.mem_cons_self ..) memory middle result sound start one)
      fun other member => step other (List.mem_cons_of_mem _ member)

/-- A pass leaves every identity that none of its objects is established under. -/
theorem find?_of_apart {objects : List Value} {key : ObjectKey}
    (success : Yields (Memory.answer issuer) memory (pass.establishAll objects) results after)
    (sound : memory.Sound) (apart : ∀ declared ∈ objects, ∀ desired own,
      pass.Prepared declared desired own → own.same key = false) :
    after.find? key = memory.find? key := by
  refine yields_establishAll_induction (motive := fun after =>
    after.find? key = memory.find? key) success sound rfl ?_
  intro declared member before after result sound' kept one
  obtain ⟨desired, own, prepared, _, leaves⟩ := leaves_of_yields sound' one
  rw [leaves.find?_other (apart declared member desired own prepared), kept]

end Pass

namespace Undertaking

variable {undertaking : Undertaking} {bundle : Option Webhook.CABundle}

/-- A pass leaves every identity that it does not declare. -/
theorem find?_of_not_declares (undertaking : Undertaking) {results : List Established}
    {key : ObjectKey} (success : Yields (Memory.answer issuer) memory
      ((undertaking.pass bundle).establishAll undertaking.objects) results after)
    (sound : memory.Sound) (apart : ¬ undertaking.Declares key) :
    after.find? key = memory.find? key := by
  refine Pass.find?_of_apart success sound fun declared member desired own prepared => ?_
  by_contra same
  exact apart ⟨declared, member, own, prepared.finalKey_eq, by simpa using same⟩

end Undertaking

end ManifestOwnership
