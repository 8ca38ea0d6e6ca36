import ManifestOwnership.Fault
import ManifestOwnership.Number.Line

/-! # Timestamps

An instant, given in seconds since 1970, as a date and a time of day in universal time. A fraction
of a second is a binary64 number of microseconds, rounded to a whole one, a half going to the even
one, and left out if it is zero. Only the years 1 to 9999 can be written.
-/

namespace ManifestOwnership.Text.Timestamp

/-- The microseconds of a fraction of a second. The product is a binary64 number itself, so it is
rounded twice. -/
def fractionMicroseconds (units : Nat) : Nat :=
  match Binary64.ofRatio false (units * 1000000) Binary64.unitsPerOne with
  | .finite _ product => roundHalfEven product Binary64.unitsPerOne
  | _ => 0

/-- Microseconds since 1970. -/
def microseconds (seconds : Number) : Except Fault Int :=
  match seconds with
  | .whole n => .ok (n * 1000000)
  | .float .nan => .error .wrongValue
  | .float (.infinite _) => .error .outOfRange
  | .float (.finite negative units) =>
    let n : Int := (units / Binary64.unitsPerOne) * 1000000 +
      fractionMicroseconds (units % Binary64.unitsPerOne)
    .ok (if negative then -n else n)

/-- The year, month and day of a count of days since 1970, by eras of 400 years that begin with
March. -/
def civil (days : Int) : Int × Nat × Nat :=
  let shifted := days + 719468
  let era := shifted.fdiv 146097
  let dayOfEra := (shifted.fmod 146097).toNat
  let yearOfEra :=
    (dayOfEra - dayOfEra / 1460 + dayOfEra / 36524 - dayOfEra / 146096) / 365
  let dayOfYear := dayOfEra - (365 * yearOfEra + yearOfEra / 4 - yearOfEra / 100)
  let shiftedMonth := (5 * dayOfYear + 2) / 153
  let day := dayOfYear - (153 * shiftedMonth + 2) / 5 + 1
  let month := if shiftedMonth < 10 then shiftedMonth + 3 else shiftedMonth - 9
  let year := (yearOfEra : Int) + era * 400 + (if month ≤ 2 then 1 else 0)
  (year, month, day)

def padded (width n : Nat) : String :=
  let digits := Nat.toDigits 10 n
  String.ofList (List.replicate (width - digits.length) '0' ++ digits)

def fits (bits : Nat) (n : Int) : Bool :=
  let bound : Nat := 1 <<< bits
  n < bound && -(bound : Int) ≤ n

/-- The years that the calendar of the system counts: those whose distance from 1900 fits in 32
bits with a sign. -/
def isCounted (year : Int) : Bool :=
  fits 31 (year - 1900)

def ofSeconds (seconds : Number) : Except Fault String := do
  let total ← microseconds seconds
  let whole := total.fdiv 1000000
  let fraction := (total.fmod 1000000).toNat
  if !fits 63 whole then throw .outOfRange
  let (year, month, day) := civil (whole.fdiv 86400)
  if !isCounted year then throw .beyondCalendar
  if year < 1 ∨ 9999 < year then throw .wrongValue
  let time := (whole.fmod 86400).toNat
  return padded 4 year.toNat ++ "-" ++ padded 2 month ++ "-" ++ padded 2 day ++ "T" ++
    padded 2 (time / 3600) ++ ":" ++ padded 2 (time / 60 % 60) ++ ":" ++ padded 2 (time % 60) ++
    (if fraction = 0 then "" else "." ++ padded 6 fraction)

end ManifestOwnership.Text.Timestamp
