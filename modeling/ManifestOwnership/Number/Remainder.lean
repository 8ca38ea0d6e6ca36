import ManifestOwnership.Number.Line

/-! # Remainders

What is left of a number when another one divides it. The remainder has the sign of the divisor and
lies nearer to zero than it; a zero remainder has that sign as well. The divisor is not zero.
-/

namespace ManifestOwnership

/-- The remainder of binary64 numbers. A remainder that changes sides is rounded to the format; an
infinite divisor is itself what is left on the other side. -/
def Binary64.remainder : Binary64 → Binary64 → Binary64
  | nan, _ => nan
  | _, nan => nan
  | infinite _, _ => nan
  | finite negative units, infinite side =>
    if units = 0 then finite side 0
    else if negative = side then finite negative units
    else infinite side
  | finite negative units, finite side divisor =>
    if divisor = 0 then nan
    else
      let rest := units % divisor
      if rest = 0 then finite side 0
      else if negative = side then finite side rest
      else ofRatio side (divisor - rest) unitsPerOne

/-- The remainder of numbers, `none` if one of them has to become a binary64 number and is too
large. -/
def Number.remainder? : Number → Number → Option Number
  | whole m, whole n => some (whole (m.fmod n))
  | x, y =>
    match x.toBinary64?, y.toBinary64? with
    | some a, some b => some (float (a.remainder b))
    | _, _ => none

end ManifestOwnership
