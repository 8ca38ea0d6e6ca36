import ManifestOwnership.Proofs.Establish.Conversion
import ManifestOwnership.Proofs.Establish.Ownership

/-! # What becomes of the secret

A pass reads the TLS secret before all else and has no step that is about writing it. But the
objects are whatever a revision declares, and nothing keeps it from declaring the secret: a pass
that takes control then replaces the data that the bundle comes from. So a pass writes the secret
only if it declares it. Otherwise, and also if it takes no control, the next pass fetches the same
bundle.
-/

namespace ManifestOwnership

open Store Interaction

variable {issuer : Issuer} {memory : Memory} {key : ObjectKey}

namespace Undertaking

/-- Whether it succeeds or not, a pass writes only what it declares. -/
theorem declares_of_written (issuer : Issuer) (undertaking : Undertaking) (sound : memory.Sound)
    (written : Memory.Written (undertaking.activity.run (Memory.answer issuer) memory).exchanges
      key) : undertaking.Declares key := by
  by_contra apart
  have kept := undertaking.find?_run_of_not_declares issuer sound apart
  exact (Memory.find?_eq_iff_not_written sound (answers_run _ _ _)).mp kept written

/-- Whether it succeeds or not, a pass that leaves an object or takes no control keeps all of it but
the owners and the version. -/
theorem agree_of_run (issuer : Issuer) (undertaking : Undertaking) (sound : memory.Sound)
    (harmless : ¬ Memory.Written (undertaking.activity.run (Memory.answer issuer) memory).exchanges
      key ∨ undertaking.takesControl = false) :
    Option.Rel (Manifest.Agree ["ownerReferences", "resourceVersion"])
      ((undertaking.activity.run (Memory.answer issuer) memory).state.find? key)
      (memory.find? key) := by
  obtain unwritten | mere := harmless
  · rw [(Memory.find?_eq_iff_not_written sound (answers_run _ _ _)).mpr unwritten]
    cases found : memory.find? key with
    | none => exact .none
    | some object => exact .some (.refl (sound.held key object found).formed)
  · have touched := undertaking.touched_of_run issuer sound mere key
    generalize (undertaking.activity.run (Memory.answer issuer) memory).state.find? key = left
      at touched ⊢
    cases found : memory.find? key with
    | none =>
      rw [found] at touched
      cases touched with
      | none => exact .none
    | some object =>
      rw [found] at touched
      cases touched with
      | some touched => exact .some (touched.agree (sound.held key object found).formed)

/-- Whether it succeeds or not, a pass writes the secret that its bundle comes from only if it
declares it, and leaves it exactly as it was unless it writes it. If it does not write it, or takes
no control, then whatever pass reads the secret next fetches what it would have fetched before. -/
theorem keeps_secret (undertaking : Undertaking) (reachable : memory.Reachable issuer)
    (atSecret : undertaking.secretKey = .ok (some key))
    {course : Course Memory Request Value (List Established)}
    (ran : undertaking.activity.run (Memory.answer issuer) memory = course) :
    (Memory.Written course.exchanges key → undertaking.Declares key) ∧
      (¬ Memory.Written course.exchanges key → course.state.find? key = memory.find? key) ∧
      (¬ Memory.Written course.exchanges key ∨ undertaking.takesControl = false →
        ∀ next : Undertaking, next.secretKey = undertaking.secretKey →
          (next.fetch.run (Memory.answer issuer) course.state).outcome =
            (next.fetch.run (Memory.answer issuer) memory).outcome) := by
  subst ran
  have sound := reachable.sound
  refine ⟨undertaking.declares_of_written issuer sound,
    (Memory.find?_eq_iff_not_written sound (answers_run _ _ _)).mpr, ?_⟩
  intro harmless next same
  exact outcome_fetch_congr issuer (same.trans atSecret)
    (undertaking.agree_of_run issuer sound harmless)

/-- A revision that declares other objects leaves its secret, and the next one gets the bundle. -/
theorem keeps_secret_securedBy : ∃ memory course key,
    memory = ((Memory.empty true).answer Memory.numerals (.create (certified "s"))).state ∧
    (securedBy (.text "s") [bare "a"] true).secretKey = .ok (some key) ∧
    (securedBy (.text "s") [bare "a"] true).activity.run (Memory.answer Memory.numerals) memory =
      course ∧
    course.outcome.map (List.map (·.outcome)) = .ok [.created] ∧
    course.state.find? key = memory.find? key ∧
    ((securedBy (.text "s") [] false).fetch.run (Memory.answer Memory.numerals)
      course.state).outcome = .ok (some [99, 97]) := by
  have start := Memory.reachable_empty Memory.numerals true
  obtain ⟨onlyDeclared, kept, fetches⟩ := keeps_secret (securedBy (.text "s") [bare "a"] true)
    (start.answer (.create (certified "s"))) rfl rfl
  have unwritten := mt onlyDeclared (by
    rintro ⟨declared, member, final, atFinal, same⟩
    obtain rfl := List.mem_singleton.mp member
    obtain rfl := Except.ok.inj atFinal
    contradiction)
  refine ⟨_, _, _, rfl, rfl, rfl, rfl, kept unwritten, ?_⟩
  rw [fetches (.inl unwritten) (securedBy (.text "s") [] false) rfl]
  rfl

def dataless (name : String) : Value :=
  .object [("apiVersion", .text "v1"), ("kind", .text "Secret"),
    ("metadata", .object [("name", .text name), ("namespace", .text "test")])]

/-- A revision that declares its own secret replaces it, and the bundle is gone. -/
theorem declared_secret_replaced : ∃ memory course key,
    memory = ((Memory.empty true).answer Memory.numerals (.create (certified "s"))).state ∧
    Memory.Reachable Memory.numerals memory ∧
    (securedBy (.text "s") [dataless "s"] true).secretKey = .ok (some key) ∧
    (securedBy (.text "s") [dataless "s"] true).activity.run (Memory.answer Memory.numerals)
      memory = course ∧
    course.outcome.map (List.map (·.outcome)) = .ok [.updated] ∧
    course.state.find? key ≠ memory.find? key ∧
    ((securedBy (.text "s") [] true).fetch.run (Memory.answer Memory.numerals) memory).outcome =
      .ok (some [99, 97]) ∧
    ((securedBy (.text "s") [] true).fetch.run (Memory.answer Memory.numerals)
      course.state).outcome = .error Webhook.CABundle.missing := by
  have start := Memory.reachable_empty Memory.numerals true
  refine ⟨_, _, _, rfl, start.answer _, rfl, rfl, rfl, fun same => ?_, rfl, rfl⟩
  have versions := congrArg (Option.map Memory.versionOf) same
  cases versions

end Undertaking

end ManifestOwnership
