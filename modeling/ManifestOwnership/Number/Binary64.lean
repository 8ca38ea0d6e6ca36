/-! # Binary64 numbers as exact quantities

A finite binary64 number is a sign and a count of the smallest positive step, `2 ^ -1074`, so
comparison with integers and rounding to decimals need only natural-number arithmetic. The
module rounds a quotient to the nearest number, a half going to the even neighbour. It performs
no floating-point arithmetic: the numbers of a manifest are compared, tested and printed.
-/

namespace ManifestOwnership

/-- A number of the binary64 format; `units` counts multiples of `2 ^ -1074`. -/
inductive Binary64 where
  | nan
  | infinite (negative : Bool)
  | finite (negative : Bool) (units : Nat)
  deriving DecidableEq, Inhabited

/-- The quotient rounded to the nearest natural number, a half going to the even one. -/
def roundHalfEven (numerator denominator : Nat) : Nat :=
  let quotient := numerator / denominator
  let twice := 2 * (numerator % denominator)
  if twice < denominator then quotient
  else if denominator < twice then quotient + 1
  else if quotient % 2 = 0 then quotient
  else quotient + 1

def bitLength (n : Nat) : Nat :=
  if n = 0 then 0 else n.log2 + 1

/-- How many digits the decimal form of a positive natural number has, and none for zero. -/
def decimalLength (n : Nat) : Nat :=
  if n = 0 then 0 else (Nat.toDigits 10 n).length

namespace Binary64

/-- One, counted in the smallest positive step. -/
def unitsPerOne : Nat := 1 <<< 1074

theorem unitsPerOne_pos : 0 < unitsPerOne := by
  rw [unitsPerOne, Nat.one_shiftLeft]
  exact Nat.two_pow_pos 1074

/-- The least magnitude, in smallest steps, that is too large for a finite number. -/
def overflowUnits : Nat := 1 <<< 2098

/-- The distance between neighbours of the format around a magnitude: 53 significant bits. -/
def spacing (units : Nat) : Nat :=
  1 <<< (bitLength units - 53)

/-- The number nearest to a quotient of natural numbers; beyond the largest it is infinite. -/
def ofRatio (negative : Bool) (numerator denominator : Nat) : Binary64 :=
  let scaled := numerator * unitsPerOne
  let step := spacing (scaled / denominator)
  let units := roundHalfEven scaled (denominator * step) * step
  if overflowUnits ≤ units then infinite negative else finite negative units

/-- The number nearest to `digits * 10 ^ exponent`. Exponents far outside the range of the format
are settled by the digit count alone. -/
def ofDecimal (negative : Bool) (digits : Nat) (exponent : Int) : Binary64 :=
  let leading := exponent + decimalLength digits
  if digits = 0 ∨ leading < -400 then finite negative 0
  else if 400 < leading then infinite negative
  else match exponent with
    | .ofNat e => ofRatio negative (digits * Nat.pow 10 e) 1
    | .negSucc e => ofRatio negative digits (Nat.pow 10 (e + 1))

def isZero : Binary64 → Bool
  | finite _ 0 => true
  | _ => false

/-- Whether a number is finite and has no fractional part. -/
def isWhole : Binary64 → Bool
  | finite _ units => units % unitsPerOne == 0
  | _ => false

end Binary64

end ManifestOwnership
