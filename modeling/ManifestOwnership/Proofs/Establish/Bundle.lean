import ManifestOwnership.Proofs.Faults
import ManifestOwnership.Proofs.Establish.Protocol

/-! # The bundle of a pass

What fetching the bundle comes to. There is none exactly if the revision names no secret, and then
nothing is asked. A bundle that is fetched is never empty. Where there should be one and it cannot
be had, the fault says so: the secret could not be read, or it holds no bundle.
-/

namespace ManifestOwnership

open Store Interaction

namespace Text.Base64

private theorem nameless_decodeFrom (groups pads : Nat) (pending : List Nat) (text : List Char) :
    Nameless (decodeFrom groups pending pads text) := by
  induction text generalizing groups pads pending with
  | nil =>
    rcases pending with _ | ⟨digit, _ | ⟨digit', rest⟩⟩ <;> simp [decodeFrom, Fault.problem?]
  | cons c rest ih =>
    rw [decodeFrom]
    cases digit? c <;> simp [ih]

@[simp] theorem nameless_decode (text : List Char) : Nameless (decode text) := by
  unfold decode
  split_ifs
  · exact nameless_decodeFrom _ _ _ _
  · simp [Fault.problem?]

/-- What is encoded is not lost. -/
theorem encode_ne_nil {bytes : List UInt8} (given : bytes ≠ []) : encode bytes ≠ [] := by
  rcases bytes with _ | ⟨a, _ | ⟨b, _ | ⟨c, rest⟩⟩⟩ <;> simp_all [encode]

end Text.Base64

namespace Webhook.CABundle

variable {key secret encoded : Value} {bundle : Webhook.CABundle}

@[simp] theorem nameless_ofEncoded (encoded : Value) : Nameless (ofEncoded encoded) := by
  unfold ofEncoded
  split
  · split_ifs <;> simp
  · split_ifs <;> simp [Fault.problem?]

def missing : Fault :=
  .problem .secretWithoutBundle Problem.secretWithoutBundle.defaultMessage

theorem ofSecret_eq (key secret : Value) : ofSecret key secret =
    secret.fieldOrEmpty "data" >>= fun data => data.fieldNamed key >>= fun encoded =>
      ofEncoded encoded >>= fun bundle => if bundle = [] then .error missing else .ok bundle := by
  rw [ofSecret]
  refine bind_congr fun data => bind_congr fun encoded => bind_congr fun bundle => ?_
  cases bundle <;> rfl

/-- A secret holds a bundle if the text under the key is the written form of some bytes. -/
theorem ofSecret_eq_ok_iff : ofSecret key secret = .ok bundle ↔ ∃ data encoded,
    secret.fieldOrEmpty "data" = .ok data ∧ data.fieldNamed key = .ok encoded ∧
      ofEncoded encoded = .ok bundle ∧ bundle ≠ [] := by
  simp only [ofSecret_eq, bind_eq_ok_iff]
  constructor
  · rintro ⟨data, read, encoded, named, decoded, held, success⟩
    split_ifs at success with empty
    obtain rfl := Except.ok.inj success
    exact ⟨data, encoded, read, named, held, empty⟩
  · rintro ⟨data, encoded, read, named, held, given⟩
    exact ⟨data, read, encoded, named, bundle, held, if_neg given⟩

/-- A bundle that is read from a secret is not empty. -/
theorem ne_nil_of_ofSecret (held : ofSecret key secret = .ok bundle) : bundle ≠ [] := by
  obtain ⟨_, _, _, _, _, given⟩ := ofSecret_eq_ok_iff.mp held
  exact given

/-- A secret holds a bundle under a key: its data has a text there that is the written form of some
bytes. -/
def HeldBy (key secret : Value) (bundle : CABundle) : Prop :=
  ∃ name data encoded, key = .text name ∧ secret.get? "data" = some (.object data) ∧
    Fields.get? data name = some (.text encoded) ∧
    Text.Base64.decode encoded.toList = .ok bundle ∧ bundle ≠ []

private theorem ofEncoded_eq_ok_iff (given : bundle ≠ []) : ofEncoded encoded = .ok bundle ↔
    ∃ s, encoded = .text s ∧ Text.Base64.decode s.toList = .ok bundle := by
  cases encoded with
  | text s =>
    rw [ofEncoded]
    split_ifs with empty
    · subst empty
      simp [Text.Base64.decode, Text.Base64.decodeFrom, Ne.symm given]
    · simp
  | _ =>
    simp only [ofEncoded]
    split_ifs <;> simp [Ne.symm given]

/-- A bundle is read from a secret exactly if the secret holds it. -/
theorem ofSecret_eq_ok_iff_heldBy :
    ofSecret key secret = .ok bundle ↔ HeldBy key secret bundle := by
  rw [ofSecret_eq_ok_iff]
  constructor
  · rintro ⟨data, encoded, read, named, held, given⟩
    obtain ⟨s, rfl, decoded⟩ := (ofEncoded_eq_ok_iff given).mp held
    obtain ⟨name, fields, rfl, rfl, found⟩ := (Value.fieldNamed_eq_ok_iff (by simp)).mp named
    obtain ⟨content, rfl, chosen⟩ := Value.fieldOrEmpty_eq_ok_iff.mp read
    refine ⟨name, fields, s, rfl, ?_, found, decoded, given⟩
    -- The fields are not those of the empty object that stands in for missing data.
    obtain ⟨present, chosen⟩ | ⟨_, empty⟩ := Value.orElse_eq_iff.mp chosen
    · rw [Value.get?_object, Fields.get?_of_truthy present, chosen]
    · obtain rfl := Value.object.inj empty
      simp at found
  · rintro ⟨name, data, encoded, rfl, present, found, decoded, given⟩
    refine ⟨.object data, .text encoded, ?_, (Value.fieldNamed_eq_ok_iff (by simp)).mpr
      ⟨name, data, rfl, rfl, found⟩, (ofEncoded_eq_ok_iff given).mpr ⟨encoded, rfl, decoded⟩, given⟩
    cases secret with
    | object content =>
      replace present : Fields.get? content "data" = some (.object data) := present
      simp [Fields.get, present]
    | _ => contradiction

/-- The bundle is in the data of a secret and does not depend on the metadata. -/
theorem ofSecret_congr {aside : List String} {secret' : Value}
    (agree : Manifest.Agree aside secret secret') : ofSecret key secret = ofSecret key secret' := by
  rw [ofSecret_eq, ofSecret_eq, agree.fieldOrEmpty_eq (by decide)]

/-- A secret without a bundle is reported as such, or is of no use at all. -/
theorem problem_of_ofSecret {fault : Fault} (failure : ofSecret key secret = .error fault) :
    fault.problem? = none ∨ fault.problem? = some .secretWithoutBundle := by
  simp only [ofSecret_eq, bind_eq_error_iff] at failure
  obtain unread | ⟨data, _, unnamed | ⟨encoded, _, unreadable | ⟨bundle, _, failure⟩⟩⟩ := failure
  · exact .inl (Value.nameless_fieldOrEmpty _ _ fault unread)
  · exact .inl (Value.nameless_fieldNamed _ _ fault unnamed)
  · exact .inl (nameless_ofEncoded _ fault unreadable)
  · split_ifs at failure
    obtain rfl := Except.error.inj failure
    exact .inr rfl

/-! ## Reading the secret -/

variable {σ : Type} {answer : σ → Request → Answer σ Value} {source : σ} {settings : Settings}
  {revision : Revision} {scope name : Value}

def reading (scope name : Value) : Request :=
  .get (.text "v1") (.text "Secret") name scope

/-- A revision that names no secret has no bundle, and nothing is asked. -/
theorem run_fetch_of_falsy (named : revision.secretName = .ok name) (blank : name.truthy = false) :
    let course := (fetch settings revision scope key).run answer source
    course.outcome = .ok none ∧ course.exchanges = [] ∧ course.state = source := by
  simp only [fetch, named, lift_ok_bind, blank]
  exact ⟨rfl, rfl, rfl⟩

/-- Otherwise the secret is read once, and the reply is what the outcome is made of. -/
theorem run_fetch (named : revision.secretName = .ok name) (given : name.truthy = true) :
    let course := (fetch settings revision scope key).run answer source
    course.exchanges = [(reading scope name, (answer source (reading scope name)).reply)] ∧
      course.state = (answer source (reading scope name)).state ∧
      course.outcome =
        match (answer source (reading scope name)).reply with
        | .error cause => .error (.secretUnreadable Problem.secretUnreadable.defaultMessage cause)
        | .ok secret =>
          (ofSecret (key.orElse (settings.value .webhookCertificateKey)) secret).map some := by
  simp only [fetch, named, lift_ok_bind, given, Bool.not_true, Bool.false_eq_true, if_false, run,
    reading]
  cases (answer source (.get (.text "v1") (.text "Secret") name scope)).reply with
  | error cause => exact ⟨rfl, rfl, rfl⟩
  | ok secret =>
    dsimp only
    cases (ofSecret (key.orElse (settings.value .webhookCertificateKey)) secret).map some <;>
      exact ⟨rfl, rfl, rfl⟩

end Webhook.CABundle

namespace Undertaking

variable {undertaking : Undertaking} {exchanges : List (Request × Except Fault Value)}

/-- There is no bundle if the revision names no secret, and then nothing is asked. -/
theorem Fetches.unnamed_of_none (fetches : undertaking.Fetches exchanges (.ok none)) :
    exchanges = [] ∧ ∃ name, undertaking.parent.secretName = .ok name ∧ name.truthy = false := by
  generalize fetched : (Except.ok none : Except Fault (Option Webhook.CABundle)) = outcome at fetches
  cases fetches with
  | unread => contradiction
  | unnamed named blank => exact ⟨rfl, _, named, blank⟩
  | asked named given reply =>
    cases reply with
    | error cause => contradiction
    | ok secret =>
      obtain ⟨bundle, _, some⟩ := map_eq_ok_iff.mp fetched.symm
      contradiction

/-- A bundle that is fetched is not empty. -/
theorem Fetches.ne_nil_of_some {bundle : Webhook.CABundle}
    (fetches : undertaking.Fetches exchanges (.ok (some bundle))) : bundle ≠ [] := by
  generalize fetched : Except.ok (some bundle) = outcome at fetches
  cases fetches with
  | unread => contradiction
  | unnamed => simp at fetched
  | asked named given reply =>
    cases reply with
    | error cause => contradiction
    | ok secret =>
      obtain ⟨bundle', held, same⟩ := map_eq_ok_iff.mp fetched.symm
      obtain rfl := Option.some.inj same
      exact Webhook.CABundle.ne_nil_of_ofSecret held

/-- The problems that fetching the bundle reports. -/
theorem Fetches.problem_of_fault {fault : Fault}
    (fetches : undertaking.Fetches exchanges (.error fault)) :
    fault.problem? = none ∨ fault.problem? = some .secretUnreadable ∨
      fault.problem? = some .secretWithoutBundle := by
  generalize failed : Except.error fault = outcome at fetches
  cases fetches with
  | unread fails =>
    obtain rfl := Except.error.inj failed
    exact .inl (Revision.nameless_secretName _ fault fails)
  | unnamed => contradiction
  | asked named given reply =>
    cases reply with
    | error cause =>
      obtain rfl := Except.error.inj failed
      exact .inr (.inl rfl)
    | ok secret =>
      cases held : Webhook.CABundle.ofSecret (undertaking.establisher.certificateKey.orElse
          (undertaking.settings.value .webhookCertificateKey)) secret with
      | ok bundle =>
        rw [bundleOf, held] at failed
        contradiction
      | error fault' =>
        rw [bundleOf, held] at failed
        obtain rfl := Except.error.inj failed
        exact (Webhook.CABundle.problem_of_ofSecret held).imp_right .inr

/-- What a revision without a secret fetches. -/
theorem Fetches.eq_of_unnamed {outcome : Except Fault (Option Webhook.CABundle)} {name : Value}
    (fetches : undertaking.Fetches exchanges outcome)
    (named : undertaking.parent.secretName = .ok name) (blank : name.truthy = false) :
    exchanges = [] ∧ outcome = .ok none := by
  cases fetches with
  | unread fails =>
    rw [named] at fails
    contradiction
  | unnamed => exact ⟨rfl, rfl⟩
  | asked named' given =>
    obtain rfl := Except.ok.inj (named.symm.trans named')
    simp [blank] at given

/-! ## The bundle from a store in memory -/

variable {issuer : Issuer} {memory : Memory} {key : ObjectKey}

def certificateKey (undertaking : Undertaking) : Value :=
  undertaking.establisher.certificateKey.orElse
    (undertaking.settings.value .webhookCertificateKey)

theorem secretKey_eq_none_iff : undertaking.secretKey = .ok none ↔
    ∃ name, undertaking.parent.secretName = .ok name ∧ name.truthy = false := by
  rw [secretKey, bind_eq_ok_iff]
  refine exists_congr fun name => and_congr_right fun _ => ?_
  cases name.truthy with
  | false => simp
  | true =>
    cases ObjectKey.of undertaking.scope (.text "Secret") (.text "v1") name <;>
      simp [Functor.map, Except.map]

theorem secretKey_eq_some_iff : undertaking.secretKey = .ok (some key) ↔
    ∃ name, undertaking.parent.secretName = .ok name ∧ name.truthy = true ∧
      ObjectKey.of undertaking.scope (.text "Secret") (.text "v1") name = .ok key := by
  rw [secretKey, bind_eq_ok_iff]
  refine exists_congr fun name => and_congr_right fun _ => ?_
  cases name.truthy with
  | false => simp
  | true =>
    cases ObjectKey.of undertaking.scope (.text "Secret") (.text "v1") name <;>
      simp [Functor.map, Except.map]

private theorem outcome_fetch {name : Value} (issuer : Issuer) (memory : Memory)
    (named : undertaking.parent.secretName = .ok name) (given : name.truthy = true) :
    (undertaking.fetch.run (Memory.answer issuer) memory).outcome = undertaking.bundleOf
      (memory.answer issuer (.get (.text "v1") (.text "Secret") name undertaking.scope)).reply :=
  (Webhook.CABundle.run_fetch named given).2.2

/-- A revision that names no secret has no bundle. -/
theorem outcome_fetch_of_none (issuer : Issuer) (memory : Memory)
    (unnamed : undertaking.secretKey = .ok none) :
    (undertaking.fetch.run (Memory.answer issuer) memory).outcome = .ok none := by
  obtain ⟨name, named, blank⟩ := secretKey_eq_none_iff.mp unnamed
  exact (Webhook.CABundle.run_fetch_of_falsy named blank).1

/-- The bundle is what the secret holds. -/
theorem outcome_fetch_of_some {secret : Value} (issuer : Issuer)
    (atSecret : undertaking.secretKey = .ok (some key)) (present : memory.find? key = some secret) :
    (undertaking.fetch.run (Memory.answer issuer) memory).outcome =
      (Webhook.CABundle.ofSecret undertaking.certificateKey secret).map some := by
  obtain ⟨name, named, given, atKey⟩ := secretKey_eq_some_iff.mp atSecret
  rw [outcome_fetch issuer memory named given, Memory.reply_get_of_some atKey present]
  rfl

/-- A missing secret is told as one that cannot be read. -/
theorem outcome_fetch_of_missing (issuer : Issuer)
    (atSecret : undertaking.secretKey = .ok (some key)) (absent : memory.find? key = none) :
    ∃ cause, (undertaking.fetch.run (Memory.answer issuer) memory).outcome =
        .error (.secretUnreadable Problem.secretUnreadable.defaultMessage cause) ∧
      cause.isObjectMissing = true := by
  obtain ⟨name, named, given, atKey⟩ := secretKey_eq_some_iff.mp atSecret
  obtain ⟨cause, replied, missing⟩ := Memory.reply_get_of_none issuer atKey absent
  refine ⟨cause, ?_, missing⟩
  rw [outcome_fetch issuer memory named given, replied]
  rfl

/-- What is fetched is the same from stores whose secrets agree. -/
theorem outcome_fetch_congr {memory' : Memory} {aside : List String} (issuer : Issuer)
    (atSecret : undertaking.secretKey = .ok (some key))
    (agree : Option.Rel (Manifest.Agree aside) (memory.find? key) (memory'.find? key)) :
    (undertaking.fetch.run (Memory.answer issuer) memory).outcome =
      (undertaking.fetch.run (Memory.answer issuer) memory').outcome := by
  cases found : memory.find? key with
  | none =>
    rw [found] at agree
    cases found' : memory'.find? key with
    | some secret' => simp [found'] at agree
    | none =>
      obtain ⟨name, named, given, atKey⟩ := secretKey_eq_some_iff.mp atSecret
      rw [outcome_fetch issuer memory named given, outcome_fetch issuer memory' named given]
      refine congrArg undertaking.bundleOf (Memory.get_congr fun own atOwn => ?_)
      obtain rfl := Except.ok.inj (atKey.symm.trans atOwn)
      rw [found, found']
  | some secret =>
    rw [found] at agree
    cases found' : memory'.find? key with
    | none => simp [found'] at agree
    | some secret' =>
      rw [found'] at agree
      rw [outcome_fetch_of_some issuer atSecret found, outcome_fetch_of_some issuer atSecret found',
        Webhook.CABundle.ofSecret_congr (Option.rel_some_some.mp agree)]

private theorem outcome_fetch_of_error {fault : Fault} (issuer : Issuer) (memory : Memory)
    (unkeyed : undertaking.secretKey = .error fault) :
    ∃ fault', (undertaking.fetch.run (Memory.answer issuer) memory).outcome = .error fault' := by
  rw [secretKey, bind_eq_error_iff] at unkeyed
  obtain unread | ⟨name, named, unkeyed⟩ := unkeyed
  · have fetches := fetches_of_plays (plays_run (Memory.answer issuer) memory undertaking.fetch)
    generalize (undertaking.fetch.run (Memory.answer issuer) memory).outcome = outcome,
      (undertaking.fetch.run (Memory.answer issuer) memory).exchanges = exchanges at fetches ⊢
    cases fetches with
    | unread => exact ⟨_, rfl⟩
    | unnamed named => simp [unread] at named
    | asked named => simp [unread] at named
  · cases given : name.truthy with
    | false =>
      rw [if_pos (by simp [given])] at unkeyed
      contradiction
    | true =>
      rw [outcome_fetch issuer memory named given]
      cases atKey : ObjectKey.of undertaking.scope (.text "Secret") (.text "v1") name with
      | ok key => simp [given, atKey] at unkeyed
      | error fault' =>
        rw [(Memory.reply_get_of_error atKey).1]
        exact ⟨_, rfl⟩

/-- The bundle of a pass against a store in memory: none if the revision names no secret, and
otherwise the one that the secret holds. -/
theorem yields_fetch_iff {bundle : Option Webhook.CABundle} :
    Yields (Memory.answer issuer) memory undertaking.fetch bundle memory ↔
      undertaking.secretKey = .ok none ∧ bundle = none ∨
        ∃ key secret authority, undertaking.secretKey = .ok (some key) ∧
          memory.find? key = some secret ∧
          Webhook.CABundle.HeldBy undertaking.certificateKey secret authority ∧
          bundle = some authority := by
  have fetched : Yields (Memory.answer issuer) memory undertaking.fetch bundle memory ↔
      (undertaking.fetch.run (Memory.answer issuer) memory).outcome = .ok bundle := by
    constructor
    · exact And.left
    · intro success
      have yields : Yields (Memory.answer issuer) memory undertaking.fetch bundle _ :=
        ⟨success, rfl⟩
      exact (yields_fetch_congr yields fun _ _ => rfl).2
  rw [fetched]
  cases atSecret : undertaking.secretKey with
  | error fault =>
    obtain ⟨fault', failure⟩ := outcome_fetch_of_error issuer memory atSecret
    simp [failure]
  | ok key? =>
    cases key? with
    | none =>
      rw [outcome_fetch_of_none issuer memory atSecret]
      simp [eq_comm]
    | some key =>
      cases found : memory.find? key with
      | none =>
        obtain ⟨cause, failure, _⟩ := outcome_fetch_of_missing issuer atSecret found
        simp [failure, found]
      | some secret =>
        rw [outcome_fetch_of_some issuer atSecret found, map_eq_ok_iff]
        simp only [Webhook.CABundle.ofSecret_eq_ok_iff_heldBy]
        constructor
        · rintro ⟨authority, held, rfl⟩
          exact .inr ⟨key, secret, authority, rfl, found, held, rfl⟩
        · rintro (⟨unnamed, _⟩ | ⟨_, _, authority, same, present, held, rfl⟩)
          · simp at unnamed
          · obtain rfl := Option.some.inj (Except.ok.inj same)
            obtain rfl := Option.some.inj (found.symm.trans present)
            exact ⟨authority, held, rfl⟩

end Undertaking

end ManifestOwnership
