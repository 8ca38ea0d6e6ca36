import ManifestOwnership.Proofs.Establish.Bundle

/-! # Conversion webhooks and the bundle

A custom resource definition that a webhook converts is of no use without a bundle. So a pass of a
revision that names no secret is refused if one of its objects needs conversion, wherever it stands
in the list, and before anything is asked; and if there is a bundle, whatever is written for such an
object carries it. The refusal names the object, which takes metadata that is an object or does not
count as given. Metadata of any other kind ends the pass too, but not by the refusal.
-/

namespace ManifestOwnership

open Store Interaction

variable {exchanges : List (Request × Except Fault Value)} {declared desired body crd : Value}
  {objects : List Value}

namespace Store.Request

def body? : Request → Option Value
  | .get _ _ _ _ => none
  | .create definition => some definition
  | .update definition => some definition

end Store.Request

namespace Webhook

/-- A manifest carries a bundle for its conversion webhook, and that is not empty. -/
def Authorized (definition : Value) : Prop :=
  ∃ encoded, encoded ≠ "" ∧ definition.at? Injection.authorityPath = .ok (some (.text encoded))

/-- What carries a bundle that is not empty is authorized, if a webhook converts it. -/
theorem Carries.authorized {bundle : CABundle}
    (carries : Carries (CABundle.written bundle) declared body) (given : bundle ≠ [])
    (converts : needsConversion declared = .ok true) : Authorized body := by
  refine ⟨_, ?_, carries.conversion converts⟩
  intro empty
  have nothing := congrArg String.toList empty
  rw [String.toList_ofList] at nothing
  exact Text.Base64.encode_ne_nil given nothing

/-- The first of some objects that needs a conversion webhook, if those before it can be told to
need none. -/
def FirstConverted (objects : List Value) (crd : Value) : Prop :=
  ∃ front back, objects = front ++ crd :: back ∧
    (∀ declared ∈ front, needsConversion declared = .ok false) ∧ needsConversion crd = .ok true

theorem firstConverted_cons_iff : FirstConverted (declared :: objects) crd ↔
    needsConversion declared = .ok true ∧ crd = declared ∨
      needsConversion declared = .ok false ∧ FirstConverted objects crd := by
  constructor
  · rintro ⟨front, back, split, accepted, converts⟩
    cases front with
    | nil =>
      obtain ⟨rfl, rfl⟩ := List.cons.inj split
      exact .inl ⟨converts, rfl⟩
    | cons first front =>
      obtain ⟨rfl, rfl⟩ := List.cons.inj split
      obtain ⟨here, there⟩ := List.forall_mem_cons.mp accepted
      exact .inr ⟨here, front, back, rfl, there, converts⟩
  · rintro (⟨converts, rfl⟩ | ⟨here, front, back, rfl, there, converts⟩)
    · exact ⟨[], objects, rfl, by simp, converts⟩
    · exact ⟨declared :: front, back, rfl, List.forall_mem_cons.mpr ⟨here, there⟩, converts⟩

end Webhook

/-- An object can be named in messages exactly if its metadata is an object or does not count as
given. -/
theorem Manifest.identity_cases (content : Fields) :
    (∃ fields identity, (Value.object content).fieldOrEmpty "metadata" = .ok (.object fields) ∧
        Manifest.identity (.object content) = .ok identity) ∨
      (¬ ∃ fields, (Value.object content).fieldOrEmpty "metadata" = .ok (.object fields)) ∧
        Manifest.identity (.object content) = .error .lacksOperation := by
  have read : (Value.object content).fieldOrEmpty "metadata" =
      .ok ((Fields.get content "metadata").orElse (.object [])) := rfl
  rw [Manifest.identity, read]
  cases (Fields.get content "metadata").orElse (.object []) with
  | object fields => exact .inl ⟨fields, _, rfl, rfl⟩
  | _ => exact .inr ⟨by simp, rfl⟩

namespace Establisher

/-- The fault of a pass that is refused for want of a bundle. -/
def refusal : Fault :=
  .problem .conversionWithoutAuthority Problem.conversionWithoutAuthority.defaultMessage

/-- The first object that needs conversion is named, and then the pass is refused. -/
theorem refuseConversion_of_first (first : Webhook.FirstConverted objects crd) :
    (refuseConversion objects).outcome = Manifest.identity crd >>= fun _ => .error refusal := by
  induction objects with
  | nil =>
    obtain ⟨front, back, split, _⟩ := first
    simp at split
  | cons declared rest ih =>
    rw [refuseConversion, Log.Reported.outcome_bind, Log.Reported.outcome_lift]
    obtain ⟨converts, rfl⟩ | ⟨passes, first⟩ := Webhook.firstConverted_cons_iff.mp first
    · rw [converts, ok_bind, if_pos rfl, Log.Reported.outcome_bind, Log.Reported.outcome_lift]
      rfl
    · rw [passes, ok_bind, if_neg (by simp), ih first]

/-- Without such an object the pass is not refused, and at worst an object is of no use. -/
theorem nameless_refuseConversion (none : ∀ crd, ¬ Webhook.FirstConverted objects crd) :
    Nameless (refuseConversion objects).outcome := by
  induction objects with
  | nil => exact Nameless.ok ()
  | cons declared rest ih =>
    rw [refuseConversion, Log.Reported.outcome_bind, Log.Reported.outcome_lift]
    cases judged : Webhook.needsConversion declared with
    | error fault => exact Nameless.error_iff.mpr (Webhook.nameless_needsConversion _ fault judged)
    | ok needs =>
      cases needs with
      | true => exact absurd (Webhook.firstConverted_cons_iff.mpr (.inl ⟨judged, rfl⟩)) (none _)
      | false =>
        refine ih fun crd first => none crd ?_
        exact Webhook.firstConverted_cons_iff.mpr (.inr ⟨judged, first⟩)

/-- The problem that is reported when a pass is refused. -/
theorem problem_of_refuseConversion {fault : Fault}
    (failure : (refuseConversion objects).outcome = .error fault) :
    fault.problem? = none ∨ fault.problem? = some .conversionWithoutAuthority := by
  by_cases first : ∃ crd, Webhook.FirstConverted objects crd
  · obtain ⟨crd, first⟩ := first
    rw [refuseConversion_of_first first, bind_eq_error_iff] at failure
    obtain unshown | ⟨_, _, refused⟩ := failure
    · exact .inl (Manifest.nameless_identity _ fault unshown)
    · obtain rfl := Except.error.inj refused
      exact .inr rfl
  · exact .inl (nameless_refuseConversion (not_exists.mp first) fault failure)

end Establisher

namespace Pass

variable {pass : Pass}

theorem relays_create (pass : Pass) (desired : Value) : Relays (pass.create desired) := by
  rw [create]
  split_ifs
  · refine .bind (.liftReported (nameless_owned _ _ _ _)) fun target => ?_
    exact .bind (.ask _) fun _ => .pure _
  · exact .bind (.lift (Manifest.nameless_identity _)) fun _ => .pure _

theorem relays_update (pass : Pass) (current desired : Value) :
    Relays (pass.update current desired) := by
  rw [update]
  split_ifs
  · refine .bind (.lift (nameless_atVersion _ _)) fun versioned => ?_
    refine .bind (.liftReported (nameless_owned _ _ _ _)) fun target => ?_
    exact .bind (.ask _) fun _ => .pure _
  · refine .bind (.liftReported (nameless_owned _ _ _ _)) fun target => ?_
    exact .bind (.ask _) fun _ => .pure _

/-- A fault of the read is passed on unless it says that the object is missing. -/
theorem relays_apply (pass : Pass) (desired : Value) : Relays (pass.apply desired) := by
  intro exchanges fault plays
  cases read : reading desired with
  | error fault' =>
    rw [apply, read] at plays
    obtain ⟨_, same⟩ := plays
    obtain rfl := Except.error.inj same
    exact .inl (nameless_reading desired fault read)
  | ok r =>
    have relayed {activity : Interaction Request Value (Value × Outcome)} {reply later}
        (relays : Relays activity) (plays : activity.Plays later (.error fault)) :
        fault.problem? = none ∨ ∃ exchange ∈ (r, reply) :: later, exchange.2 = .error fault := by
      obtain unnamed | ⟨exchange, member, replied⟩ := relays later fault plays
      · exact .inl unnamed
      · exact .inr ⟨exchange, List.mem_cons_of_mem _ member, replied⟩
    obtain ⟨reply, later, rfl, ⟨fault', rfl, _, rfl, same⟩ | ⟨_, _, created⟩ |
      ⟨_, _, _, updated⟩⟩ := plays_apply_cases read plays
    · obtain rfl := Except.error.inj same
      exact .inr ⟨_, List.mem_singleton_self _, rfl⟩
    · exact relayed (relays_create pass desired) created
    · exact relayed (relays_update pass _ desired) updated

theorem relays_establishOne (pass : Pass) (declared : Value) :
    Relays (pass.establishOne declared) := by
  rw [establishOne]
  refine .bind (.liftReported (nameless_prepare _ _)) fun desired => ?_
  refine .bind (relays_apply _ _) fun result => ?_
  refine .bind (.lift (TypedReference.nameless_ofManifest _)) fun reference => ?_
  exact .bind (.lift (Manifest.nameless_identity _)) fun identity => .pure _

/-- Whatever problem ends a pass over declared objects was given in reply. -/
theorem relays_establishAll (pass : Pass) (objects : List Value) :
    Relays (pass.establishAll objects) := by
  induction objects with
  | nil => exact .pure _
  | cons declared rest ih =>
    rw [establishAll]
    exact .bind (relays_establishOne _ _) fun first => .bind ih fun others => .pure _

/-- A control pass writes forms of the desired object, whatever is replied. -/
theorem agree_of_plays_apply {r : Request} {outcome : Except Fault (Value × Outcome)}
    (control : pass.takesControl = true) (read : reading desired = .ok r)
    (plays : (pass.apply desired).Plays exchanges outcome) :
    ∀ exchange ∈ exchanges, exchange.1.body? = some body →
      Manifest.Agree ["ownerReferences", "resourceVersion"] body desired := by
  have formed := formed_of_reading read
  obtain rfl := Except.ok.inj ((reading_eq formed).symm.trans read)
  obtain ⟨reply, later, rfl, cases⟩ := plays_apply_cases read plays
  refine List.forall_mem_cons.mpr ⟨(nomatch ·), ?_⟩
  obtain ⟨fault, _, _, rfl, _⟩ | ⟨_, _, created⟩ | ⟨current, _, _, updated⟩ := cases
  · simp
  · obtain ⟨mere, _⟩ | ⟨_, ⟨fault, _, rfl, _⟩ | ⟨target, reply, made, rfl, _⟩⟩ :=
      plays_create formed created
    · simp [control] at mere
    · simp
    · rintro _ member wrote
      obtain rfl := List.mem_singleton.mp member
      obtain rfl := Option.some.inj wrote
      exact (agree_of_owned made formed).mono (by simp)
  · obtain ⟨fault, _, rfl, _⟩ | ⟨target, reply, made, rfl, _⟩ := plays_update updated
    · simp
    · rintro _ member wrote
      obtain rfl := List.mem_singleton.mp member
      obtain rfl := Option.some.inj wrote
      exact agree_of_replacement control made formed

/-- Whatever a control pass writes for a declared object is a form of the desired object. -/
theorem agree_of_plays {outcome : Except Fault Established} (control : pass.takesControl = true)
    (plays : (pass.establishOne declared).Plays exchanges outcome) :
    ∀ exchange ∈ exchanges, exchange.1.body? = some body → ∃ desired,
      (pass.prepare declared).outcome = .ok desired ∧
        Manifest.Agree ["ownerReferences", "resourceVersion"] body desired := by
  rw [establishOne] at plays
  cases prepared : (pass.prepare declared).outcome with
  | error fault =>
    obtain ⟨rfl, _⟩ := (plays_bind_of_error prepared).mp plays
    simp
  | ok desired =>
    replace plays := (plays_bind_of_ok prepared).mp plays
    -- What follows the application of the desired object asks for nothing.
    obtain ⟨result, applied⟩ : ∃ result, (pass.apply desired).Plays exchanges result := by
      obtain ⟨fault, applied, _⟩ | ⟨⟨final, marked⟩, early, late, applied, reported, rfl⟩ :=
        plays_bind_iff.mp plays
      · exact ⟨_, applied⟩
      · obtain rfl : late = [] := by
          simp only [plays_bind_iff, plays_lift_iff, plays_report_iff, plays_pure_iff] at reported
          obtain ⟨_, ⟨rfl, _⟩, _⟩ | ⟨_, _, _, ⟨rfl, _⟩, ⟨_, ⟨rfl, _⟩, _⟩ |
            ⟨_, _, _, ⟨rfl, _⟩, ⟨rfl, _⟩, rfl⟩, rfl⟩ := reported <;> rfl
        rw [List.append_nil]
        exact ⟨_, applied⟩
    intro exchange member wrote
    cases read : reading desired with
    | error fault =>
      rw [apply, read] at applied
      obtain ⟨rfl, _⟩ := applied
      contradiction
    | ok r =>
      exact ⟨desired, rfl,
        agree_of_plays_apply control read applied exchange member wrote⟩

/-- What is asked for declared objects falls into rounds, one for each of the first objects. -/
theorem exists_rounds {outcomes : Except Fault (List Established)}
    (plays : (pass.establishAll objects).Plays exchanges outcomes) :
    ∃ rounds : List (List (Request × Except Fault Value)), exchanges = rounds.flatten ∧
      List.Forall₂ (fun declared round =>
        ∃ outcome, (pass.establishOne declared).Plays round outcome)
        (objects.take rounds.length) rounds := by
  induction objects generalizing exchanges outcomes with
  | nil =>
    obtain ⟨rfl, _⟩ := plays
    exact ⟨[], rfl, .nil⟩
  | cons declared rest ih =>
    rw [establishAll] at plays
    obtain ⟨fault, one, _⟩ | ⟨result, early, late, one, others, rfl⟩ := plays_bind_iff.mp plays
    · exact ⟨[exchanges], by simp, .cons ⟨_, one⟩ .nil⟩
    · obtain ⟨outcome, all⟩ : ∃ outcome, (pass.establishAll rest).Plays late outcome := by
        obtain ⟨fault, all, _⟩ | ⟨results, _, _, all, ⟨rfl, _⟩, rfl⟩ := plays_bind_iff.mp others
        · exact ⟨_, all⟩
        · rw [List.append_nil]
          exact ⟨_, all⟩
      obtain ⟨rounds, rfl, each⟩ := ih all
      exact ⟨early :: rounds, rfl, .cons ⟨_, one⟩ each⟩

end Pass

namespace Undertaking

variable {undertaking : Undertaking} {name : Value} {outcome : Except Fault (List Established)}

private theorem refused_of_plays (plays : undertaking.activity.Plays exchanges outcome)
    (named : undertaking.parent.secretName = .ok name) (blank : name.truthy = false)
    (first : Webhook.FirstConverted undertaking.objects crd) :
    exchanges = [] ∧
      ((∃ fields, crd.fieldOrEmpty "metadata" = .ok (.object fields)) ∧
          outcome = .error Establisher.refusal ∨
        (¬ ∃ fields, crd.fieldOrEmpty "metadata" = .ok (.object fields)) ∧
          outcome = .error .lacksOperation) := by
  have refused := Establisher.refuseConversion_of_first first
  obtain ⟨content, rfl⟩ : ∃ content, crd = .object content := by
    obtain ⟨_, _, _, _, converts⟩ := first
    simp only [Webhook.needsConversion, bind_eq_ok_iff, Value.field_eq_ok_iff] at converts
    obtain ⟨_, ⟨content, rfl, _⟩, _⟩ := converts
    exact ⟨content, rfl⟩
  obtain ⟨fault, fetched, rfl⟩ | ⟨fault, fetched, failed, rfl⟩ |
    ⟨bundle, early, late, fetched, accepted, _, rfl⟩ := plays_activity_cases plays
  · obtain ⟨_, same⟩ := (fetches_of_plays fetched).eq_of_unnamed named blank
    contradiction
  · obtain ⟨rfl, _⟩ := (fetches_of_plays fetched).eq_of_unnamed named blank
    rw [refused] at failed
    refine ⟨rfl, ?_⟩
    obtain ⟨fields, identity, read, shown⟩ | ⟨unread, unshown⟩ := Manifest.identity_cases content
    · rw [shown] at failed
      obtain rfl := Except.error.inj failed
      exact .inl ⟨⟨fields, read⟩, rfl⟩
    · rw [unshown] at failed
      obtain rfl := Except.error.inj failed
      exact .inr ⟨unread, rfl⟩
  · obtain ⟨_, same⟩ := (fetches_of_plays fetched).eq_of_unnamed named blank
    have passed := accepted (Except.ok.inj same)
    rw [refused, bind_eq_ok_iff] at passed
    obtain ⟨_, _, passed⟩ := passed
    contradiction

private theorem first_of_refused {fault : Fault}
    (plays : undertaking.activity.Plays exchanges (.error fault))
    (honest : ∀ exchange ∈ exchanges, exchange.2 = .error fault →
      fault.problem? ≠ some .conversionWithoutAuthority)
    (refused : fault.problem? = some .conversionWithoutAuthority) :
    (∃ name, undertaking.parent.secretName = .ok name ∧ name.truthy = false) ∧
      ∃ crd, Webhook.FirstConverted undertaking.objects crd := by
  obtain ⟨fault', fetched, same⟩ | ⟨fault', fetched, failed, same⟩ |
    ⟨bundle, early, late, _, _, all, rfl⟩ := plays_activity_cases plays
  · obtain rfl := Except.error.inj same
    obtain unnamed | unread | empty := (fetches_of_plays fetched).problem_of_fault <;>
      simp_all
  · obtain rfl := Except.error.inj same
    refine ⟨(fetches_of_plays fetched).unnamed_of_none.2, ?_⟩
    by_contra none
    have unnamed := Establisher.nameless_refuseConversion (not_exists.mp none) fault failed
    simp [unnamed] at refused
  · obtain unnamed | ⟨exchange, member, replied⟩ := Pass.relays_establishAll _ _ late fault all
    · simp [unnamed] at refused
    · exact absurd refused (honest exchange (List.mem_append_right _ member) replied)

private theorem authorized_of_plays (plays : undertaking.activity.Plays exchanges outcome)
    (control : undertaking.takesControl = true) :
    ∃ early rounds, exchanges = early ++ rounds.flatten ∧
      (∀ exchange ∈ early, exchange.1.isWrite = false) ∧
      List.Forall₂ (fun declared round => ∃ bundle outcome,
        undertaking.fetch.Plays early (.ok bundle) ∧
          ((undertaking.pass bundle).establishOne declared).Plays round outcome ∧
          (Webhook.needsConversion declared = .ok true → ∀ exchange ∈ round, ∀ body,
            exchange.1.body? = some body → Webhook.Authorized body))
        (undertaking.objects.take rounds.length) rounds := by
  obtain ⟨fault, fetched, _⟩ | ⟨fault, fetched, _⟩ |
    ⟨bundle, early, late, fetched, accepted, all, rfl⟩ := plays_activity_cases plays
  · exact ⟨exchanges, [], by simp, (fetches_of_plays fetched).reads, .nil⟩
  · exact ⟨exchanges, [], by simp, (fetches_of_plays fetched).reads, .nil⟩
  · obtain ⟨rounds, rfl, each⟩ := Pass.exists_rounds all
    refine ⟨early, rounds, rfl, (fetches_of_plays fetched).reads, ?_⟩
    have control' : (undertaking.pass bundle).takesControl = true := control
    have declares : ∀ declared ∈ undertaking.objects.take rounds.length, bundle = none →
        Webhook.needsConversion declared = .ok false := fun declared member none =>
      outcome_refuseConversion_iff.mp (accepted none) declared (List.mem_of_mem_take member)
    refine ((List.forall₂_and_left _ _).mpr ⟨declares, each⟩).imp ?_
    rintro declared round ⟨judged, outcome, one⟩
    refine ⟨bundle, outcome, fetched, one, fun converts exchange member body wrote => ?_⟩
    obtain ⟨desired, prepared, agree⟩ := Pass.agree_of_plays control' one exchange member wrote
    cases bundle with
    | none => simp [judged rfl] at converts
    | some bundle =>
      have given := (fetches_of_plays fetched).ne_nil_of_some
      have carries := Pass.carries_of_prepare prepared agree.right rfl
      exact (carries.of_agree agree).authorized given converts

/-- Whatever the store replies, short of a refusal of its own: a pass is refused for want of a
bundle exactly if the revision names no secret and an object needs conversion, and then nothing has
been asked. The objects before that one are told to need none, and its metadata is an object or
does not count as given; with other metadata the pass ends in another fault. And what a control
pass writes for an object that needs conversion holds a bundle. -/
theorem conversion_needs_bundle {σ : Type} (undertaking : Undertaking)
    (answer : σ → Request → Answer σ Value) (source : σ)
    (honest : ∀ exchange ∈ (undertaking.activity.run answer source).exchanges, ∀ fault,
      exchange.2 = .error fault → fault.problem? ≠ some .conversionWithoutAuthority) :
    ((∃ fault, (undertaking.activity.run answer source).outcome = .error fault ∧
          fault.problem? = some .conversionWithoutAuthority) ↔
        (∃ name, undertaking.parent.secretName = .ok name ∧ name.truthy = false) ∧
          ∃ crd fields, Webhook.FirstConverted undertaking.objects crd ∧
            crd.fieldOrEmpty "metadata" = .ok (.object fields)) ∧
      (∀ name crd, undertaking.parent.secretName = .ok name → name.truthy = false →
        Webhook.FirstConverted undertaking.objects crd →
          (undertaking.activity.run answer source).exchanges = [] ∧
            ((∃ fields, crd.fieldOrEmpty "metadata" = .ok (.object fields)) ∧
                (undertaking.activity.run answer source).outcome = .error Establisher.refusal ∨
              (¬ ∃ fields, crd.fieldOrEmpty "metadata" = .ok (.object fields)) ∧
                (undertaking.activity.run answer source).outcome = .error .lacksOperation)) ∧
      (undertaking.takesControl = true → ∃ early rounds,
        (undertaking.activity.run answer source).exchanges = early ++ rounds.flatten ∧
          (∀ exchange ∈ early, exchange.1.isWrite = false) ∧
          List.Forall₂ (fun declared round => ∃ bundle outcome,
            undertaking.fetch.Plays early (.ok bundle) ∧
              ((undertaking.pass bundle).establishOne declared).Plays round outcome ∧
              (Webhook.needsConversion declared = .ok true → ∀ exchange ∈ round, ∀ body,
                exchange.1.body? = some body → Webhook.Authorized body))
            (undertaking.objects.take rounds.length) rounds) := by
  have plays := plays_run answer source undertaking.activity
  refine ⟨⟨?_, ?_⟩, fun name crd named blank first => refused_of_plays plays named blank first,
    fun control => authorized_of_plays plays control⟩
  · rintro ⟨fault, failed, refused⟩
    rw [failed] at plays
    obtain ⟨⟨name, named, blank⟩, crd, first⟩ := first_of_refused plays
      (fun exchange member => honest exchange member fault) refused
    refine ⟨⟨name, named, blank⟩, ?_⟩
    obtain ⟨_, ⟨⟨fields, read⟩, _⟩ | ⟨_, same⟩⟩ := refused_of_plays plays named blank first
    · exact ⟨crd, fields, first, read⟩
    · obtain rfl := Except.error.inj same
      simp [Fault.problem?] at refused
  · rintro ⟨⟨name, named, blank⟩, crd, fields, first, read⟩
    obtain ⟨_, ⟨_, failed⟩ | ⟨unread, _⟩⟩ := refused_of_plays plays named blank first
    · exact ⟨_, failed, rfl⟩
    · exact absurd ⟨fields, read⟩ unread

/-- A custom resource definition that a webhook converts, with the given metadata. -/
def converted (metadata : Value) : Value :=
  .object [("apiVersion", .text "apiextensions.k8s.io/v1"),
    ("kind", .text "CustomResourceDefinition"), ("metadata", metadata),
    ("spec", .object [("conversion", .object [("strategy", .text "Webhook")])])]

def certified (name : String) : Value :=
  .object [("apiVersion", .text "v1"), ("kind", .text "Secret"),
    ("metadata", .object [("name", .text name), ("namespace", .text "test")]),
    ("data", .object [("tls.crt", .text "Y2E=")])]

/-- A call of a revision that names a secret, or null for none. -/
def securedBy (secret : Value) (objects : List Value) (control : Bool) : Undertaking where
  establisher := ⟨.text "test", .null, .null, .null, .null⟩
  settings := Settings.defaults
  objects := objects
  parent := {
    definition := .object [("apiVersion", .text "v1"), ("kind", .text "Thing"),
      ("metadata", .object [("name", .text "r")]),
      ("spec", .object [("webhookTLSSecretName", secret)])]
    kind := .text "Thing"
    apiVersion := .text "v1"
    metadata := .object [("name", .text "r")]
    name := .text "r"
    scope := .null
    uid := .null }
  control := .bool control

/-- A revision without a secret is refused for the second of its objects, and one with a secret
gives that object its bundle. -/
theorem conversion_needs_bundle_securedBy : ∃ memory objects refused accepted,
    memory = ((Memory.empty true).answer Memory.numerals (.create (certified "s"))).state ∧
    objects = [bare "a", converted (.object [("name", .text "b")])] ∧
    (securedBy .null objects true).activity.run (Memory.answer Memory.numerals) memory = refused ∧
    (securedBy (.text "s") objects true).activity.run (Memory.answer Memory.numerals) memory =
      accepted ∧
    refused.exchanges = [] ∧ refused.outcome.map (List.map (·.outcome)) =
      .error Establisher.refusal ∧
    accepted.exchanges.length = 5 ∧
    ∃ early rounds, accepted.exchanges = early ++ rounds.flatten ∧
      (∀ exchange ∈ early, exchange.1.isWrite = false) ∧
      List.Forall₂ (fun declared round => Webhook.needsConversion declared = .ok true →
        ∀ exchange ∈ round, ∀ body, exchange.1.body? = some body → Webhook.Authorized body)
        (objects.take rounds.length) rounds := by
  have honest {exchanges : List (Request × Except Fault Value)}
      (all : exchanges.all (fun
        | (_, .ok _) => true
        | (_, .error fault) => fault.problem? != some .conversionWithoutAuthority) = true) :
      ∀ exchange ∈ exchanges, ∀ fault, exchange.2 = .error fault →
        fault.problem? ≠ some .conversionWithoutAuthority := by
    rintro ⟨request, reply⟩ member fault rfl
    simpa using List.all_eq_true.mp all _ member
  have first : Webhook.FirstConverted [bare "a", converted (.object [("name", .text "b")])]
      (converted (.object [("name", .text "b")])) :=
    ⟨[bare "a"], [], rfl, by simp; rfl, rfl⟩
  obtain ⟨_, refused, _⟩ := conversion_needs_bundle
    (securedBy .null [bare "a", converted (.object [("name", .text "b")])] true)
    (Memory.answer Memory.numerals)
    ((Memory.empty true).answer Memory.numerals (.create (certified "s"))).state (honest rfl)
  obtain ⟨unasked, ⟨_, failed⟩ | ⟨unread, _⟩⟩ := refused .null _ rfl rfl first
  · obtain ⟨_, _, authorized⟩ := conversion_needs_bundle
      (securedBy (.text "s") [bare "a", converted (.object [("name", .text "b")])] true)
      (Memory.answer Memory.numerals)
      ((Memory.empty true).answer Memory.numerals (.create (certified "s"))).state (honest rfl)
    obtain ⟨early, rounds, split, reads, each⟩ := authorized rfl
    refine ⟨_, _, _, _, rfl, rfl, rfl, rfl, unasked, by rw [failed]; rfl, rfl, early, rounds, split,
      reads, each.imp ?_⟩
    rintro declared round ⟨_, _, _, _, carries⟩
    exact carries
  · exact absurd ⟨[("name", .text "b")], rfl⟩ unread

/-- A definition that needs conversion is not refused if its metadata is a text. -/
theorem misnamed_not_refused : ∃ course,
    (securedBy .null [converted (.text "x")] true).activity.run (Memory.answer Memory.numerals)
      (Memory.empty true) = course ∧
    (securedBy .null [converted (.text "x")] true).parent.secretName = .ok .null ∧
    course.exchanges = [] ∧
    Webhook.FirstConverted (securedBy .null [converted (.text "x")] true).objects
      (converted (.text "x")) ∧
    ¬ ((∃ fault, course.outcome = .error fault ∧
          fault.problem? = some .conversionWithoutAuthority) ↔
        ∃ crd, Webhook.FirstConverted (securedBy .null [converted (.text "x")] true).objects
          crd) := by
  have first : Webhook.FirstConverted (securedBy .null [converted (.text "x")] true).objects
      (converted (.text "x")) := ⟨[], [], rfl, by simp, rfl⟩
  refine ⟨_, rfl, rfl, rfl, first, fun claimed => ?_⟩
  obtain ⟨fault, failed, refused⟩ := claimed.mpr ⟨_, first⟩
  obtain rfl : Fault.lacksOperation = fault := Except.error.inj failed
  contradiction

end Undertaking

end ManifestOwnership
