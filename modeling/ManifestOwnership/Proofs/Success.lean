import ManifestOwnership.Interaction
import Mathlib.Data.List.Forall2
import Mathlib.Tactic.Common

/-! # When an activity succeeds

`Interaction.Yields` says that an activity, played against a party in a given state, ends in a
result and leaves the party in a given state. The laws take a successful activity apart along its
text: a sequence succeeds exactly if its parts do, each from the state that the one before leaves.
Faults are not described here; an activity that fails yields nothing.
-/

namespace ManifestOwnership

variable {α β : Type}

@[simp] theorem ok_bind (a : α) (next : α → Except Fault β) :
    (Except.ok a >>= next) = next a := rfl

/-- A sequence of two steps has a result exactly if both have one. -/
@[simp] theorem bind_eq_ok_iff {first : Except Fault α} {next : α → Except Fault β} {b : β} :
    (first >>= next) = .ok b ↔ ∃ a, first = .ok a ∧ next a = .ok b := by
  cases first with
  | error fault => simp [bind, Except.bind]
  | ok a => simp [bind, Except.bind]

/-- A sequence of two steps ends in a fault exactly if one of them does. -/
theorem bind_eq_error_iff {first : Except Fault α} {next : α → Except Fault β} {fault : Fault} :
    (first >>= next) = .error fault ↔
      first = .error fault ∨ ∃ a, first = .ok a ∧ next a = .error fault := by
  cases first with
  | error fault => simp [bind, Except.bind]
  | ok a => simp [bind, Except.bind]

@[simp] theorem map_eq_ok_iff {first : Except Fault α} {f : α → β} {b : β} :
    first.map f = .ok b ↔ ∃ a, first = .ok a ∧ f a = b := by
  cases first <;> simp [Except.map]

theorem map_eq_error_iff {first : Except Fault α} {f : α → β} {fault : Fault} :
    first.map f = .error fault ↔ first = .error fault := by
  cases first <;> simp [Except.map]

@[simp] theorem pure_eq_ok_iff {a b : α} : (pure a : Except Fault α) = .ok b ↔ a = b := by
  simp [pure, Except.pure]

/-- Work that has a result on every item of a list has one on the whole list. -/
theorem exists_mapM {step : α → Except Fault β} {good : β → Prop} {items : List α}
    (each : ∀ item ∈ items, ∃ b, step item = .ok b ∧ good b) :
    ∃ results, items.mapM step = .ok results ∧ ∀ b ∈ results, good b := by
  induction items with
  | nil => exact ⟨[], rfl, by simp⟩
  | cons item rest ih =>
    obtain ⟨⟨b, here, holds⟩, there⟩ := List.forall_mem_cons.mp each
    obtain ⟨results, all, hold⟩ := ih there
    refine ⟨b :: results, ?_, List.forall_mem_cons.mpr ⟨holds, hold⟩⟩
    rw [List.mapM_cons, here, ok_bind, all]
    rfl

/-- Work on a list has results exactly if it has one on each item. -/
theorem mapM_eq_ok_iff {step : α → Except Fault β} {items : List α} {results : List β} :
    items.mapM step = .ok results ↔
      List.Forall₂ (fun item b => step item = .ok b) items results := by
  induction items generalizing results with
  | nil => simp [pure, Except.pure, eq_comm]
  | cons item rest ih =>
    rw [List.mapM_cons, bind_eq_ok_iff, List.forall₂_cons_left_iff]
    constructor
    · rintro ⟨b, here, success⟩
      obtain ⟨others, there, same⟩ := bind_eq_ok_iff.mp success
      exact ⟨b, others, here, ih.mp there, (pure_eq_ok_iff.mp same).symm⟩
    · rintro ⟨b, others, here, there, rfl⟩
      exact ⟨b, here, bind_eq_ok_iff.mpr ⟨others, ih.mpr there, rfl⟩⟩

namespace Log.Reported

@[simp] theorem outcome_pure (a : α) : (pure a : Reported α).outcome = .ok a := rfl

@[simp] theorem outcome_fail (fault : Fault) : (fail fault : Reported α).outcome = .error fault :=
  rfl

@[simp] theorem outcome_ofExcept (outcome : Except Fault α) :
    (ofExcept outcome).outcome = outcome := rfl

@[simp] theorem outcome_lift (outcome : Except Fault α) :
    (liftM outcome : Reported α).outcome = outcome := rfl

@[simp] theorem outcome_tell (events : List Event) : (tell events).outcome = .ok () := rfl

/-- What work with reports comes to does not depend on the events. -/
@[simp] theorem outcome_bind (first : Reported α) (next : α → Reported β) :
    (first >>= next).outcome = first.outcome >>= fun a => (next a).outcome := by
  change (bind first next).outcome = _
  unfold bind
  cases first.outcome <;> rfl

end Log.Reported

namespace Interaction

variable {ρ ω σ : Type} {answer : σ → ρ → Answer σ ω} {source target : σ}

/-- An activity ends in a result and leaves the other party in a state. -/
def Yields (answer : σ → ρ → Answer σ ω) (source : σ) (activity : Interaction ρ ω α) (result : α)
    (target : σ) : Prop :=
  (activity.run answer source).outcome = .ok result ∧ (activity.run answer source).state = target

/-- An activity yields a result if some view of its outcome shows one. -/
theorem exists_yields_of_map {activity : Interaction ρ ω α} {view : α → β} {seen : β}
    (shown : (activity.run answer source).outcome.map view = .ok seen) :
    ∃ result, Yields answer source activity result (activity.run answer source).state ∧
      view result = seen := by
  cases outcome : (activity.run answer source).outcome with
  | error fault => simp [outcome, Except.map] at shown
  | ok result => exact ⟨result, ⟨outcome, rfl⟩, by simpa [outcome, Except.map] using shown⟩

@[simp] theorem yields_pure_iff {a result : α} :
    Yields answer source (pure a) result target ↔ a = result ∧ source = target := by
  simp [Yields, pure, run]

@[simp] theorem not_yields_fail {fault : Fault} {result : α} :
    ¬ Yields answer source (fail fault) result target := by
  simp [Yields, run]

@[simp] theorem yields_report_iff {event : Log.Event} {rest : Interaction ρ ω α} {result : α} :
    Yields answer source (report event rest) result target ↔
      Yields answer source rest result target := by
  simp [Yields, run]

@[simp] theorem yields_request_iff {r : ρ} {resume : Except Fault ω → Interaction ρ ω α}
    {result : α} : Yields answer source (request r resume) result target ↔
      Yields answer (answer source r).state (resume (answer source r).reply) result target := by
  simp [Yields, run]

/-- A sequence of activities yields what the second one yields from where the first one ends. -/
@[simp] theorem yields_bind_iff {activity : Interaction ρ ω α} {next : α → Interaction ρ ω β}
    {result : β} : Yields answer source (activity >>= next) result target ↔
      ∃ a middle, Yields answer source activity a middle ∧
        Yields answer middle (next a) result target := by
  change Yields answer source (activity.bind next) result target ↔ _
  simp only [Yields, run_bind, Course.andThen]
  cases outcome : (activity.run answer source).outcome <;> simp

@[simp] theorem yields_ofExcept_iff {outcome : Except Fault α} {result : α} :
    Yields answer source (ofExcept outcome) result target ↔
      outcome = .ok result ∧ source = target := by
  cases outcome <;> simp [Yields, ofExcept, run]

@[simp] theorem yields_lift_iff {outcome : Except Fault α} {result : α} :
    Yields answer source (liftM outcome) result target ↔ outcome = .ok result ∧ source = target :=
  yields_ofExcept_iff

@[simp] theorem yields_liftReported_iff {reported : Log.Reported α} {result : α} :
    Yields answer source (liftM reported) result target ↔
      reported.outcome = .ok result ∧ source = target := by
  change Yields answer source (ofReported reported) result target ↔ _
  obtain ⟨events, outcome⟩ := reported
  simp only [ofReported, reportAll]
  induction events with
  | nil => exact yields_ofExcept_iff
  | cons event rest ih => rw [List.foldr_cons, yields_report_iff, ih]

@[simp] theorem yields_ask_iff {r : ρ} {result : ω} :
    Yields answer source (ask r) result target ↔
      (answer source r).reply = .ok result ∧ (answer source r).state = target := by
  simp [ask]

@[simp] theorem yields_tryAsk_iff {r : ρ} {result : Except Fault ω} :
    Yields answer source (tryAsk r) result target ↔
      (answer source r).reply = result ∧ (answer source r).state = target := by
  change Yields answer source (request r done) result target ↔ _
  rw [yields_request_iff]
  exact yields_pure_iff

@[simp] theorem yields_titled_iff {channel : Log.Channel} {level : Log.Level} {title : String}
    {activity : Interaction ρ ω α} {result : α} :
    Yields answer source (activity.titled channel level title) result target ↔
      Yields answer source activity result target := by
  rw [titled, yields_report_iff]
  induction activity generalizing source with
  | done a => exact yields_report_iff
  | fail fault => simp [closing]
  | report event rest ih => simp only [closing, yields_report_iff, ih]
  | request r resume ih => simp only [closing, yields_request_iff, ih]

end Interaction

end ManifestOwnership
