import ManifestOwnership.Number.Binary64

/-! # Decimals of a binary64 number

Two ways to choose the decimal of a positive magnitude: the fewest digits that read back as the
same number, nearest first, and a fixed count of digits after the point or in total, rounded
from the exact value. The module chooses digits; how they are laid out is decided elsewhere.
-/

namespace ManifestOwnership

/-- The decimal `digits * 10 ^ exponent`. -/
structure Decimal where
  digits : Nat
  exponent : Int
  deriving DecidableEq, Inhabited

namespace Decimal

def text (d : Decimal) : List Char :=
  Nat.toDigits 10 d.digits

/-- Where the point stands, counted from before the first digit. -/
def point (d : Decimal) : Int :=
  (Nat.toDigits 10 d.digits).length + d.exponent

/-- The numerator and denominator of `10 ^ exponent`. -/
def scale (exponent : Int) : Nat × Nat :=
  (Nat.pow 10 exponent.toNat, Nat.pow 10 (-exponent).toNat)

end Decimal

namespace Binary64

/-- The power of ten of the leading digit of a positive magnitude. -/
def leadingExponent (units : Nat) : Int :=
  if unitsPerOne ≤ units then (decimalLength (units / unitsPerOne) : Int) - 1
  else -(decimalLength ((unitsPerOne - 1) / units) : Int)

/-- Whether the candidate `digits * 10 ^ exponent` rounds to the given magnitude. Quarters of the
smallest step keep the middle between neighbours exact; below a power of two the neighbour is
half as far away. -/
def roundsTo (units : Nat) (candidate : Decimal) : Bool :=
  let step := spacing units
  let above := 2 * step
  let below := if units == (1 <<< 52) * step && 1 < step then step else 2 * step
  let closed := units / step % 2 == 0
  let (up, down) := Decimal.scale candidate.exponent
  let place := candidate.digits * up * (4 * unitsPerOne)
  let lowest := (4 * units - below) * down
  let highest := (4 * units + above) * down
  if closed then lowest ≤ place && place ≤ highest else lowest < place && place < highest

/-- The neighbours of a magnitude among the multiples of `10 ^ exponent` that round to it, the
nearer first. -/
def candidates (units : Nat) (exponent : Int) : List Decimal :=
  let (up, down) := Decimal.scale exponent
  let numerator := units * down
  let denominator := up * unitsPerOne
  let floor := numerator / denominator
  let remainder := numerator % denominator
  let lower : Decimal := ⟨floor, exponent⟩
  let upper : Decimal := ⟨floor + 1, exponent⟩
  let nearerFirst :=
    if 2 * remainder < denominator || (2 * remainder == denominator && floor % 2 == 0) then
      [lower, upper]
    else [upper, lower]
  nearerFirst.filter (roundsTo units)

/-- The decimal of fewest digits that rounds to a positive magnitude, of several the nearest.
Seventeen digits always suffice. -/
def shortest (units : Nat) : Decimal :=
  let leading := leadingExponent units
  let grids := (List.range 17).map fun (n : Nat) => leading - Int.ofNat n
  (grids.findSome? fun exponent => (candidates units exponent).head?).getD ⟨0, 0⟩

/-- A magnitude rounded to a multiple of `10 ^ exponent`, a half going to the even one. -/
def roundedAt (units : Nat) (exponent : Int) : Decimal :=
  let (up, down) := Decimal.scale exponent
  ⟨roundHalfEven (units * down) (up * unitsPerOne), exponent⟩

/-- A positive magnitude rounded to a count of significant digits; a carry into one more digit
moves the leading digit up. -/
def roundedTo (units : Nat) (count : Nat) : Decimal :=
  let leading := leadingExponent units
  let first := roundedAt units (leading - (count : Int) + 1)
  if decimalLength first.digits ≤ count then first
  else roundedAt units (leading - (count : Int) + 2)

end Binary64

end ManifestOwnership
