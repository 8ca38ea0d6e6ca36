import ManifestOwnership.Number.Binary64

/-! # Integers and binary64 numbers on one line

A manifest's number is an integer of any size or a binary64 number. The two kinds compare by
exact value, so `1` equals `1.0` and no integer is rounded before a comparison. A NaN has no
place on the line and lies on no side of anything.
-/

namespace ManifestOwnership

/-- A number of a manifest: an integer of any size or a binary64 number. -/
inductive Number where
  | whole (n : Int)
  | float (x : Binary64)
  deriving DecidableEq, Inhabited

/-- A place on the extended line, finite places counted in multiples of `2 ^ -1074`. -/
inductive Place where
  | lowest
  | at (units : Int)
  | highest
  deriving DecidableEq

namespace Place

def le : Place → Place → Bool
  | lowest, _ => true
  | _, highest => true
  | «at» x, «at» y => x ≤ y
  | _, _ => false

end Place

namespace Number

/-- Where a number lies; a NaN lies nowhere. -/
def place? : Number → Option Place
  | whole n => some (.at (n * Binary64.unitsPerOne))
  | float .nan => none
  | float (.infinite negative) => some (if negative then .lowest else .highest)
  | float (.finite negative units) => some (.at (if negative then -(units : Int) else units))

/-- Whether two numbers have the same value. A NaN is the same as a NaN and as nothing else. -/
def same : Number → Number → Bool
  | whole m, whole n => m == n
  | x, y => x.place? == y.place?

/-- Whether the first number is at most the second. -/
def le : Number → Number → Bool
  | whole m, whole n => m ≤ n
  | x, y =>
    match x.place?, y.place? with
    | some p, some q => p.le q
    | _, _ => false

def isZero : Number → Bool
  | whole n => n == 0
  | float x => x.isZero

/-- The binary64 number nearest to a number, `none` if an integer is too large for the format. -/
def toBinary64? : Number → Option Binary64
  | float x => some x
  | whole n =>
    match Binary64.ofRatio (n < 0) n.natAbs 1 with
    | .infinite _ => none
    | x => some x

end Number

end ManifestOwnership
