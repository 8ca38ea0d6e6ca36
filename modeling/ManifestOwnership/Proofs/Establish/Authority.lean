import ManifestOwnership.Proofs.Establish.Conversion
import ManifestOwnership.Proofs.Value.Path

/-! # No bundle or a whole one

Whether a pass has a CA bundle decides what it may establish, so the bundle must not be lost on the
way. A revision that names no secret has none, and nothing is asked. For any other the secret is
read once, and then there are bytes or there is a fault: the one of the store, kept as a cause, the
one of the decoder, or the report that the secret holds no bundle. The decoder skips what is no
symbol, so that is judged by the bytes and not by the text. A pass without its bundle ends there.
-/

namespace ManifestOwnership

open Store Interaction

def Revision.secretNamed (revision : Revision) : Value :=
  Fields.get (revision.definition.part "spec") "webhookTLSSecretName"

namespace Webhook.CABundle

variable {σ : Type} {answer : σ → Request → Answer σ Value} {source : σ} {settings : Settings}
  {revision : Revision} {scope key name secret encoded : Value} {bytes : CABundle} {s : String}

/-- What a secret has under a key, if its data is absent, null or an object. -/
structure Entry (key secret encoded : Value) : Prop where
  free : secret.Open ["data"]
  found : (Value.object (secret.part "data")).fieldNamed key = .ok encoded

theorem ofEncoded_of_falsy (blank : encoded.truthy = false) : ofEncoded encoded = .ok [] := by
  cases encoded with
  | text s => simp_all [Value.truthy, ofEncoded]
  | _ => simp [ofEncoded, blank]

/-- A text is decoded, the empty one to no bytes. -/
theorem ofEncoded_text (s : String) : ofEncoded (.text s) = Text.Base64.decode s.toList := by
  rw [ofEncoded]
  split_ifs with empty
  · subst empty
    rfl
  · rfl

/-- What a secret comes to: the bytes under the key, which must be some. -/
theorem Entry.ofSecret_eq (entry : Entry key secret encoded) : ofSecret key secret =
    ofEncoded encoded >>= fun bundle => if bundle = [] then .error missing else .ok bundle := by
  rw [CABundle.ofSecret_eq, entry.free.fieldOrEmpty_eq, ok_bind, entry.found, ok_bind]

/-- There are no bytes if there is nothing to decode, or a text that is decoded to none. -/
theorem ofEncoded_eq_nil_iff : ofEncoded encoded = .ok [] ↔
    encoded.truthy = false ∨ ∃ s, encoded = .text s ∧ Text.Base64.decode s.toList = .ok [] := by
  constructor
  · intro nothing
    cases encoded with
    | text s => exact .inr ⟨s, rfl, ofEncoded_text s ▸ nothing⟩
    | _ =>
      left
      simp only [ofEncoded] at nothing
      split_ifs at nothing with given
      simpa using given
  · rintro (blank | ⟨s, rfl, decoded⟩)
    · exact ofEncoded_of_falsy blank
    · rw [ofEncoded_text, decoded]

/-- A secret is reported to hold no bundle exactly if there are no bytes, since the decoder does not
report that. -/
theorem Entry.ofSecret_eq_missing_iff (entry : Entry key secret encoded) :
    ofSecret key secret = .error missing ↔
      encoded.truthy = false ∨ ∃ s, encoded = .text s ∧ Text.Base64.decode s.toList = .ok [] := by
  rw [entry.ofSecret_eq, ← ofEncoded_eq_nil_iff]
  cases made : ofEncoded encoded with
  | error fault =>
    have other : fault ≠ missing := by
      rintro rfl
      have nameless := nameless_ofEncoded encoded missing made
      contradiction
    exact iff_of_false (fun failed => other (Except.error.inj failed)) nofun
  | ok bytes =>
    rw [ok_bind]
    split_ifs with empty <;> simp [empty]

/-- What the outcome is made of once the secret has been asked for. The fault of the store is kept
as a cause. A secret is reported to hold no bundle exactly if there is nothing under the key or a
text that is decoded to no bytes, a fault of the decoder is passed on, and other bytes are the
bundle. -/
structure MadeOf (key : Value) (reply : Except Fault Value)
    (outcome : Except Fault (Option CABundle)) : Prop where
  unread : ∀ cause, reply = .error cause →
    outcome = .error (.secretUnreadable Problem.secretUnreadable.defaultMessage cause)
  missing : ∀ secret encoded, reply = .ok secret → Entry key secret encoded →
    (outcome = .error CABundle.missing ↔ encoded.truthy = false ∨
      ∃ s, encoded = .text s ∧ Text.Base64.decode s.toList = .ok [])
  undecoded : ∀ secret s fault, reply = .ok secret → Entry key secret (.text s) →
    Text.Base64.decode s.toList = .error fault → outcome = .error fault
  decoded : ∀ secret s bytes, reply = .ok secret → Entry key secret (.text s) →
    Text.Base64.decode s.toList = .ok bytes → bytes ≠ [] → outcome = .ok (some bytes)

/-- The reply to the read is what the outcome is made of. -/
theorem madeOf_outcome (named : revision.secretName = .ok name) (given : name.truthy = true) :
    MadeOf (key.orElse (settings.value .webhookCertificateKey))
      (answer source (reading scope name)).reply
      ((fetch settings revision scope key).run answer source).outcome := by
  obtain ⟨_, _, outcome⟩ := run_fetch named given
  rw [outcome]
  constructor
  · intro cause unread
    rw [unread]
  · intro secret encoded reply entry
    simp only [reply]
    rw [← entry.ofSecret_eq_missing_iff, map_eq_error_iff]
  · intro secret s fault reply entry failure
    simp only [reply]
    rw [entry.ofSecret_eq, ofEncoded_text, failure]
    rfl
  · intro secret s bytes reply entry decoded given
    simp only [reply]
    rw [entry.ofSecret_eq, ofEncoded_text, decoded, ok_bind, if_neg given]
    rfl

/-- There is no bundle exactly if the revision names no secret. -/
theorem outcome_fetch_eq_none_iff (named : revision.secretName = .ok name) :
    ((fetch settings revision scope key).run answer source).outcome = .ok none ↔
      name.truthy = false := by
  cases given : name.truthy with
  | false => exact iff_of_true (run_fetch_of_falsy named given).1 rfl
  | true =>
    refine iff_of_false (fun success => ?_) (by simp)
    rw [(run_fetch named given).2.2] at success
    split at success
    · contradiction
    · obtain ⟨_, _, some⟩ := map_eq_ok_iff.mp success
      contradiction

/-- A bundle that is fetched is not empty. -/
theorem ne_nil_of_fetch (named : revision.secretName = .ok name)
    (success : ((fetch settings revision scope key).run answer source).outcome = .ok (some bytes)) :
    bytes ≠ [] := by
  cases given : name.truthy with
  | false =>
    rw [(run_fetch_of_falsy named given).1] at success
    simp at success
  | true =>
    rw [(run_fetch named given).2.2] at success
    split at success
    · contradiction
    · obtain ⟨bundle, held, same⟩ := map_eq_ok_iff.mp success
      obtain rfl := Option.some.inj same
      exact ne_nil_of_ofSecret held

end Webhook.CABundle

namespace Undertaking

variable {σ : Type} {answer : σ → Request → Answer σ Value} {source : σ} {undertaking : Undertaking}

/-- A pass without its bundle ends where the fetching ends. -/
theorem run_activity_of_unfetched {fault : Fault}
    (failure : (undertaking.fetch.run answer source).outcome = .error fault) :
    (undertaking.activity.run answer source).outcome = .error fault ∧
      (undertaking.activity.run answer source).exchanges =
        (undertaking.fetch.run answer source).exchanges ∧
      (undertaking.activity.run answer source).state =
        (undertaking.fetch.run answer source).state := by
  obtain ⟨event, same⟩ := undertaking.exists_activity_eq
  rw [same, Establisher.titled, run_titled, run_seq_of_fault failure]
  exact ⟨rfl, rfl, rfl⟩

open Webhook.CABundle in
/-- Whatever the store does, fetching the bundle of a revision whose spec is absent, null or an
object comes to no bundle exactly if the spec names no secret, and then nothing is asked. Otherwise
one read of the secret is all that is asked, and the outcome is made of the reply; a bundle is never
empty. So a pass goes without a bundle exactly if no secret is named. Where fetching fails the pass
ends, and nothing is asked but that read, whatever objects are declared. -/
theorem bundle_or_fault (answer : σ → Request → Answer σ Value) (source : σ)
    (undertaking : Undertaking) (free : undertaking.parent.definition.Open ["spec"]) :
    (∀ scope key : Value,
      let name := undertaking.parent.secretNamed
      let course :=
        (Webhook.CABundle.fetch undertaking.settings undertaking.parent scope key).run answer source
      (course.outcome = .ok none ↔ name.truthy = false) ∧
      (name.truthy = false → course.exchanges = [] ∧ course.state = source) ∧
      (name.truthy = true →
        course.exchanges = [(reading scope name, (answer source (reading scope name)).reply)] ∧
        course.state = (answer source (reading scope name)).state ∧
        MadeOf (key.orElse (undertaking.settings.value .webhookCertificateKey))
          (answer source (reading scope name)).reply course.outcome) ∧
      ∀ bytes, course.outcome = .ok (some bytes) → bytes ≠ []) ∧
    (∀ bundle, (undertaking.fetch.run answer source).outcome = .ok bundle →
      (bundle.getD [] = [] ↔ undertaking.parent.secretNamed.truthy = false)) ∧
    ∀ fault, (undertaking.fetch.run answer source).outcome = .error fault →
      (undertaking.activity.run answer source).outcome = .error fault ∧
      (undertaking.activity.run answer source).exchanges =
        (undertaking.fetch.run answer source).exchanges ∧
      (∀ exchange ∈ (undertaking.activity.run answer source).exchanges,
        exchange.1 = reading undertaking.scope undertaking.parent.secretNamed) ∧
      (undertaking.activity.run answer source).state =
        (undertaking.fetch.run answer source).state := by
  have named : undertaking.parent.secretName = .ok undertaking.parent.secretNamed :=
    free.atOr_eq "webhookTLSSecretName"
  refine ⟨fun scope key => ⟨outcome_fetch_eq_none_iff named,
    fun blank => (run_fetch_of_falsy named blank).2, fun given => ?_,
    fun bytes => ne_nil_of_fetch named⟩, fun bundle success => ?_, fun fault failure => ?_⟩
  · exact ⟨(run_fetch named given).1, (run_fetch named given).2.1, madeOf_outcome named given⟩
  · have noBundle : bundle.getD [] = [] ↔ bundle = none := by
      cases bundle with
      | none => simp
      | some bytes => simpa using ne_nil_of_fetch named success
    have unnamed : (undertaking.fetch.run answer source).outcome = .ok none ↔
        undertaking.parent.secretNamed.truthy = false := outcome_fetch_eq_none_iff named
    rw [noBundle, ← unnamed, success]
    simp
  · obtain ⟨outcome, asked, left⟩ := run_activity_of_unfetched failure
    refine ⟨outcome, asked, fun exchange member => ?_, left⟩
    rw [asked] at member
    cases given : undertaking.parent.secretNamed.truthy with
    | false =>
      rw [show (undertaking.fetch.run answer source).exchanges = [] from
        (run_fetch_of_falsy named given).2.1] at member
      contradiction
    | true =>
      rw [show (undertaking.fetch.run answer source).exchanges = _ from
        (run_fetch named given).1] at member
      obtain rfl := List.mem_singleton.mp member
      rfl

/-- A secret with a text under the key that holds no symbol. -/
def garbled (name : String) : Value :=
  .object [("apiVersion", .text "v1"), ("kind", .text "Secret"),
    ("metadata", .object [("name", .text name), ("namespace", .text "test")]),
    ("data", .object [("tls.crt", .text "!?==")])]

/-- A text that is not empty and holds no symbol is no bundle, and the pass ends with the read. -/
theorem bundle_or_fault_garbled : ∃ memory course,
    memory = ((Memory.empty true).answer Memory.numerals (.create (garbled "s"))).state ∧
    (securedBy (.text "s") [bare "a"] true).activity.run (Memory.answer Memory.numerals) memory =
      course ∧
    course.outcome = .error Webhook.CABundle.missing ∧
    course.exchanges.map (·.1) = [Webhook.CABundle.reading (.text "test") (.text "s")] ∧
    course.state = memory := by
  have spec : (securedBy (.text "s") [bare "a"] true).parent.definition.Open ["spec"] :=
    ⟨_, rfl, Fields.open_cons_iff.mpr (.inr ⟨_, rfl, trivial⟩)⟩
  obtain ⟨fetched, _, ended⟩ := bundle_or_fault (Memory.answer Memory.numerals)
    ((Memory.empty true).answer Memory.numerals (.create (garbled "s"))).state
    (securedBy (.text "s") [bare "a"] true) spec
  obtain ⟨_, _, asked, _⟩ := fetched (.text "test") (.text "tls.crt")
  obtain ⟨exchanges, state, made⟩ := asked rfl
  have noBytes := (made.missing _ (.text "!?==") rfl
    ⟨⟨_, rfl, Fields.open_cons_iff.mpr (.inr ⟨_, rfl, trivial⟩)⟩, rfl⟩).mpr (.inr ⟨_, rfl, rfl⟩)
  obtain ⟨outcome, same, _, left⟩ := ended _ noBytes
  refine ⟨_, _, rfl, rfl, outcome, ?_, left.trans state⟩
  rw [same]
  exact congrArg (List.map (·.1)) exchanges

end Undertaking

end ManifestOwnership
