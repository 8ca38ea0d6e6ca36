import ManifestOwnership.Text.Digit
import Mathlib.Tactic.IntervalCases

/-! # Digits shown as basic digits

A digit of any script is shown as a basic digit and every other character as itself, so no
character becomes a digit, or stops being one, by being shown.
-/

namespace ManifestOwnership.Text

variable {c mark : Char}

def IsDigit (c : Char) : Prop :=
  (digitValue? c).isSome = true

instance : DecidablePred IsDigit :=
  fun c => inferInstanceAs (Decidable ((digitValue? c).isSome = true))

theorem isDigit_iff_toNat : c.isDigit = true ↔ 0x30 ≤ c.toNat ∧ c.toNat ≤ 0x39 := by
  simp only [Char.isDigit, Bool.and_eq_true, decide_eq_true_eq, UInt32.le_iff_toNat_le]
  rfl

/-- Among the characters before the digits of other scripts only the basic digits are digits. -/
theorem isDigit_iff_of_lt (early : c.toNat < 0x660) : IsDigit c ↔ c.isDigit = true := by
  have gap : ∀ first ∈ zeros, first = 0x30 ∨ 0x660 ≤ first := by simp [zeros]
  rw [IsDigit, digitValue?, Option.isSome_map, List.find?_isSome, isDigit_iff_toNat]
  simp only [Bool.and_eq_true, decide_eq_true_eq]
  constructor
  · rintro ⟨first, member, least, most⟩
    have := gap first member
    omega
  · intro _
    exact ⟨0x30, .head _, by omega⟩

private theorem isDigit_basicDigit_of_value {value : Nat} (read : digitValue? c = some value) :
    (basicDigit c).isDigit = true := by
  obtain ⟨first, found, rfl⟩ := Option.map_eq_some_iff.mp read
  have bounds := List.find?_some found
  simp only [Bool.and_eq_true, decide_eq_true_eq] at bounds
  have small : c.toNat - first < 10 := by omega
  rw [basicDigit, read]
  dsimp only
  generalize c.toNat - first = value at small
  interval_cases value <;> rfl

private theorem isDigit_of_basic (basic : c.isDigit = true) : IsDigit c := by
  have bounds := isDigit_iff_toNat.mp basic
  exact (isDigit_iff_of_lt (by omega)).mpr basic

private theorem basicDigit_of_not_isDigit (other : ¬ IsDigit c) : basicDigit c = c := by
  rw [IsDigit, Option.not_isSome_iff_eq_none] at other
  rw [basicDigit, other]

/-- Exactly the digits are shown as basic digits. -/
theorem isDigit_basicDigit_iff : (basicDigit c).isDigit = true ↔ IsDigit c := by
  constructor
  · intro basic
    by_contra other
    rw [basicDigit_of_not_isDigit other] at basic
    exact other (isDigit_of_basic basic)
  · intro digit
    obtain ⟨value, read⟩ := Option.isSome_iff_exists.mp digit
    exact isDigit_basicDigit_of_value read

/-- A character that is not a digit is shown as itself, and nothing else is shown as it. -/
theorem basicDigit_eq_iff (other : ¬ IsDigit mark) : basicDigit c = mark ↔ c = mark := by
  by_cases digit : IsDigit c
  · have basic := isDigit_basicDigit_iff.mpr digit
    constructor
    · rintro rfl
      exact (other (isDigit_of_basic basic)).elim
    · rintro rfl
      contradiction
  · rw [basicDigit_of_not_isDigit digit]

end ManifestOwnership.Text
