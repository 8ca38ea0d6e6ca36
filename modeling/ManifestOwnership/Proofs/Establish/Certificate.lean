import ManifestOwnership.Template
import ManifestOwnership.Proofs.Establish.Authority
import ManifestOwnership.Proofs.Text.Base64
import ManifestOwnership.Proofs.Webhook.Bundles

/-! # The round trip of a certificate

A certificate stands in a secret as text, which may have been broken into lines or indented on the
way, and it is bytes to the pass that fetches it. What ends up in the client configurations is the
text again, in its standard form, so where the secret has that form its entry is copied as it
stands. The bytes must be some, since an empty certificate is reported and not injected.
-/

namespace ManifestOwnership

open Store Interaction

variable {bytes : Webhook.CABundle} {s : String}

namespace Webhook

namespace CABundle

variable {σ : Type} {answer : σ → Request → Answer σ Value} {source : σ} {settings : Settings}
  {revision : Revision} {scope key name secret : Value}

/-- The bytes of a certificate are read from its text, whatever that is strewn with. -/
theorem Entry.ofSecret_of_strewn (entry : Entry key secret (.text s)) (given : bytes ≠ [])
    (spread : Text.Base64.Strewn (Text.Base64.encode bytes) s.toList) :
    ofSecret key secret = .ok bytes := by
  rw [entry.ofSecret_eq, ofEncoded_text, Text.Base64.decode_of_strewn spread, ok_bind,
    if_neg given]

/-- The bytes of a certificate are fetched from its text, whatever that is strewn with. -/
theorem Entry.outcome_fetch_of_strewn
    (entry : Entry (key.orElse (settings.value .webhookCertificateKey)) secret (.text s))
    (named : revision.secretName = .ok name) (present : name.truthy = true)
    (reply : (answer source (reading scope name)).reply = .ok secret) (given : bytes ≠ [])
    (spread : Text.Base64.Strewn (Text.Base64.encode bytes) s.toList) :
    ((fetch settings revision scope key).run answer source).outcome = .ok (some bytes) := by
  rw [(run_fetch named present).2.2, reply]
  simp only [entry.ofSecret_of_strewn given spread]
  rfl

/-- A secret that is made for a certificate has its standard form. -/
theorem entry_tlsSecret {arguments : Fields}
    (success : Template.tlsSecret arguments (some bytes) = .ok secret) :
    ∃ standard, written bytes = .text standard ∧
      Text.Base64.Strewn (Text.Base64.encode bytes) standard.toList ∧
        Entry (.text "tls.crt") secret (.text standard) := by
  simp only [Template.tlsSecret, bind_eq_ok_iff, pure_eq_ok_iff] at success
  obtain ⟨_, _, rfl⟩ := success
  refine ⟨_, rfl, ?_, ⟨_, rfl, Fields.open_of_get rfl⟩, rfl⟩
  rw [String.toList_ofList]
  exact .refl _

end CABundle

end Webhook

/-- A round of exchanges for a declared object in which whatever is written carries a bundle. -/
structure Pass.Delivers (pass : Pass) (encoded declared : Value)
    (round : List (Request × Except Fault Value)) : Prop where
  plays : ∃ outcome, (pass.establishOne declared).Plays round outcome
  carries : ∀ exchange ∈ round, ∀ body, exchange.1.body? = some body →
    Webhook.Carries encoded declared body

/-- A control pass delivers its bundle. -/
theorem Pass.delivers_of_plays {pass : Pass} {declared : Value}
    {round : List (Request × Except Fault Value)} {outcome : Except Fault Established}
    (control : pass.takesControl = true) (present : pass.bundle = some bytes)
    (plays : (pass.establishOne declared).Plays round outcome) :
    pass.Delivers (Webhook.CABundle.written bytes) declared round := by
  refine ⟨⟨outcome, plays⟩, fun exchange member body wrote => ?_⟩
  obtain ⟨desired, prepared, agree⟩ := agree_of_plays control plays exchange member wrote
  exact (carries_of_prepare prepared agree.right present).of_agree agree

namespace Undertaking

variable {σ : Type} {answer : σ → Request → Answer σ Value} {source target : σ}
  {undertaking : Undertaking} {early late : List (Request × Except Fault Value)}
  {name secret : Value}

private theorem fetched_of_plays {outcome : Except Fault (Option Webhook.CABundle)}
    (named : undertaking.parent.secretName = .ok name) (present : name.truthy = true)
    (reply : (answer source (Webhook.CABundle.reading undertaking.scope name)).reply = .ok secret)
    (held : Webhook.CABundle.ofSecret undertaking.certificateKey secret = .ok bytes)
    (plays : undertaking.fetch.Plays early outcome)
    (answers : Answers answer source (early ++ late) target) :
    early = [(Webhook.CABundle.reading undertaking.scope name, .ok secret)] ∧
      outcome = .ok (some bytes) := by
  cases fetches_of_plays plays with
  | unread fails => simp [named] at fails
  | unnamed named' blank =>
    obtain rfl := Except.ok.inj (named.symm.trans named')
    simp [present] at blank
  | asked named' _ reply' =>
    obtain rfl := Except.ok.inj (named.symm.trans named')
    obtain rfl := reply.symm.trans answers.1
    refine ⟨rfl, ?_⟩
    rw [certificateKey] at held
    rw [bundleOf, held]
    rfl

/-- A control pass whose secret holds a bundle reads the secret and then delivers the bundle. -/
theorem exists_rounds_of_held (control : undertaking.takesControl = true)
    (named : undertaking.parent.secretName = .ok name) (present : name.truthy = true)
    (reply : (answer source (Webhook.CABundle.reading undertaking.scope name)).reply = .ok secret)
    (held : Webhook.CABundle.ofSecret undertaking.certificateKey secret = .ok bytes) :
    ∃ rounds, (undertaking.activity.run answer source).exchanges =
        (Webhook.CABundle.reading undertaking.scope name, .ok secret) :: rounds.flatten ∧
      List.Forall₂
        ((undertaking.pass (some bytes)).Delivers (Webhook.CABundle.written bytes))
        (undertaking.objects.take rounds.length) rounds := by
  have answers := answers_run answer source undertaking.activity
  obtain ⟨fault, fetched, _⟩ | ⟨fault, fetched, _⟩ |
    ⟨bundle, early, late, fetched, _, all, split⟩ :=
      plays_activity_cases (plays_run answer source undertaking.activity)
  · rw [← List.append_nil (Course.exchanges _)] at answers
    obtain ⟨_, same⟩ := fetched_of_plays named present reply held fetched answers
    contradiction
  · rw [← List.append_nil (Course.exchanges _)] at answers
    obtain ⟨_, same⟩ := fetched_of_plays named present reply held fetched answers
    simp at same
  · rw [split] at answers ⊢
    obtain ⟨rfl, same⟩ := fetched_of_plays named present reply held fetched answers
    obtain rfl := Except.ok.inj same
    obtain ⟨rounds, rfl, each⟩ := Pass.exists_rounds all
    refine ⟨rounds, rfl, each.imp ?_⟩
    rintro declared round ⟨outcome, one⟩
    exact Pass.delivers_of_plays control rfl one

open Webhook in
/-- A certificate makes the round trip from a secret into the client configurations, whatever the
text in the secret is strewn with. Fetching gives the bytes. Injecting them leaves their standard
form in all client configurations, or, where it fails on the way, in some of them and what was there
before in the others. A control pass reads the secret, and then all it writes for a declared object
carries the standard form in the client configurations that the object has. A secret that is made
for the certificate has the standard form itself. -/
theorem certificate_round_trip (given : bytes ≠ [])
    (spread : Text.Base64.Strewn (Text.Base64.encode bytes) s.toList) :
    (∀ {σ : Type} (answer : σ → Request → Answer σ Value) (source : σ) (settings : Settings)
      (revision : Revision) (scope key name secret : Value),
      revision.secretName = .ok name → name.truthy = true →
      (answer source (CABundle.reading scope name)).reply = .ok secret →
      CABundle.Entry (key.orElse (settings.value .webhookCertificateKey)) secret (.text s) →
        ((CABundle.fetch settings revision scope key).run answer source).outcome =
          .ok (some bytes)) ∧
    (∀ (service : Service) (definition : Value),
      Supersedes (CABundle.written bytes) definition
        (Injection.run bytes service definition).change.value ∧
      ∀ changed, (Injection.run bytes service definition).change.outcome = .ok changed →
        Carries (CABundle.written bytes) definition changed) ∧
    (∀ {σ : Type} (answer : σ → Request → Answer σ Value) (source : σ) (undertaking : Undertaking)
      (name secret : Value), undertaking.takesControl = true →
      undertaking.parent.secretName = .ok name → name.truthy = true →
      (answer source (CABundle.reading undertaking.scope name)).reply = .ok secret →
      CABundle.Entry undertaking.certificateKey secret (.text s) →
        ∃ rounds, (undertaking.activity.run answer source).exchanges =
            (CABundle.reading undertaking.scope name, .ok secret) :: rounds.flatten ∧
          List.Forall₂ ((undertaking.pass (some bytes)).Delivers (CABundle.written bytes))
            (undertaking.objects.take rounds.length) rounds) ∧
    ∀ (arguments : Fields) (secret : Value),
      Template.tlsSecret arguments (some bytes) = .ok secret →
        ∃ standard, CABundle.written bytes = .text standard ∧
          Text.Base64.Strewn (Text.Base64.encode bytes) standard.toList ∧
          CABundle.Entry (.text "tls.crt") secret (.text standard) := by
  refine ⟨?_, ?_, ?_, fun arguments secret => CABundle.entry_tlsSecret⟩
  · intro σ answer source settings revision scope key name secret named present reply entry
    exact entry.outcome_fetch_of_strewn named present reply given spread
  · exact fun service definition => ⟨Injection.supersedes_of_run bytes service definition,
      fun changed => Injection.carries_of_run⟩
  · intro σ answer source undertaking name secret control named present reply entry
    exact exists_rounds_of_held control named present reply (entry.ofSecret_of_strewn given spread)

/-- A secret whose certificate is broken into two lines. -/
def folded (name : String) : Value :=
  .object [("apiVersion", .text "v1"), ("kind", .text "Secret"),
    ("metadata", .object [("name", .text name), ("namespace", .text "test")]),
    ("data", .object [("tls.crt", .text "Y2E\n=\n")])]

/-- A line break before the pad and one after it make no difference to what is written for a
definition that a webhook converts. -/
theorem certificate_round_trip_folded : ∃ memory course rounds,
    memory = ((Memory.empty true).answer Memory.numerals (.create (folded "s"))).state ∧
    (securedBy (.text "s") [converted (.object [("name", .text "b")])] true).activity.run
      (Memory.answer Memory.numerals) memory = course ∧
    course.exchanges.map (·.1.isWrite) = [false, false, true] ∧
    course.exchanges.drop 1 = rounds.flatten ∧
    List.Forall₂ (fun declared round => ∀ exchange ∈ round, ∀ body, exchange.1.body? = some body →
      Webhook.Carries (.text "Y2E=") declared body)
      ([converted (.object [("name", .text "b")])].take rounds.length) rounds := by
  have standard : Text.Base64.encode [99, 97] = ['Y', '2', 'E', '='] := by decide
  have written : Webhook.CABundle.written [99, 97] = .text "Y2E=" := by
    rw [Webhook.CABundle.written, standard]
  have spread : Text.Base64.Strewn (Text.Base64.encode [99, 97]) "Y2E\n=\n".toList := by
    rw [standard]
    exact .keep 'Y' (.keep '2' (.keep 'E' (.insert '\n' (by decide) (by decide) (by decide)
      (.keep '=' (.insert '\n' (by decide) (by decide) (by decide) .nil)))))
  obtain ⟨_, _, passes, _⟩ := certificate_round_trip (by simp) spread
  obtain ⟨rounds, exchanges, each⟩ := passes (Memory.answer Memory.numerals)
    ((Memory.empty true).answer Memory.numerals (.create (folded "s"))).state
    (securedBy (.text "s") [converted (.object [("name", .text "b")])] true) (.text "s") _ rfl rfl
    rfl rfl ⟨⟨_, rfl, Fields.open_of_get rfl⟩, rfl⟩
  refine ⟨_, _, rounds, rfl, rfl, by decide +kernel, ?_, each.imp ?_⟩
  · rw [exchanges]
    rfl
  · rw [written]
    exact fun _ _ delivers => delivers.carries

end Undertaking

end ManifestOwnership
