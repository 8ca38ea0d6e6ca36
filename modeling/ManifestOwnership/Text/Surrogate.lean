/-! # Lone surrogates

Half of a UTF-16 surrogate pair is a code point and no character, but it can occur alone in a text
from outside. Such a half is held as the code point of the same number in plane eleven, where there
are no characters, and every written form shows the half itself.
-/

namespace ManifestOwnership.Text

def isSurrogate (n : Nat) : Bool :=
  0xD800 ≤ n && n < 0xE000

/-- The first code point of plane eleven. -/
def planeEleven : Nat := 0xB0000

/-- The character that holds a code point. -/
def ofCodePoint (n : Nat) : Char :=
  Char.ofNat (if isSurrogate n then planeEleven + n else n)

/-- The code point that a character holds. -/
def codePoint (c : Char) : Nat :=
  if planeEleven ≤ c.toNat && isSurrogate (c.toNat - planeEleven) then c.toNat - planeEleven
  else c.toNat

/-- A surrogate is shown as itself. -/
theorem codePoint_ofCodePoint {n : Nat} (surrogate : isSurrogate n = true) :
    codePoint (ofCodePoint n) = n := by
  have bounds : 0xD800 ≤ n ∧ n < 0xE000 := by simpa [isSurrogate] using surrogate
  have valid : (planeEleven + n).isValidChar := by
    right
    simp only [planeEleven]
    omega
  have held : (ofCodePoint n).toNat = planeEleven + n := by
    rw [ofCodePoint, if_pos surrogate, Char.ofNat, dif_pos valid]
    rfl
  simp [codePoint, held, surrogate]

end ManifestOwnership.Text
