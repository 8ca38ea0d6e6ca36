import ManifestOwnership.Number.Decimal
import ManifestOwnership.Number.Line

/-! # Numbers as text

The default text of a binary64 number has the fewest digits that read back, is positional from
`1e-4` up to below `1e16`, keeps `.0` on whole values, and otherwise carries a signed exponent of
at least two digits. The layouts with a fixed count of digits serve `%` directives.
-/

namespace ManifestOwnership

def intText : Int → String
  | .ofNat n => String.ofList (Nat.toDigits 10 n)
  | .negSucc n => String.ofList ('-' :: Nat.toDigits 10 (n + 1))

namespace Decimal

/-- A sign and at least two digits. -/
def exponentText (exponent : Int) : List Char :=
  let digits := Nat.toDigits 10 exponent.natAbs
  let padded := if digits.length < 2 then '0' :: digits else digits
  (if exponent < 0 then '-' else '+') :: padded

/-- The digits with the point at its place, filled up with zeros; a whole value ends in `.0`. -/
def positional (digits : List Char) (point : Int) : List Char :=
  if point ≤ 0 then '0' :: '.' :: (List.replicate (-point).toNat '0' ++ digits)
  else
    let place := point.toNat
    if digits.length ≤ place then
      digits ++ List.replicate (place - digits.length) '0' ++ ['.', '0']
    else digits.take place ++ '.' :: digits.drop place

/-- One digit, the others after a point, and the exponent of the first. -/
def scientific (digits : List Char) (point : Int) : List Char :=
  let fraction := digits.drop 1
  digits.take 1 ++ (if fraction.isEmpty then [] else '.' :: fraction) ++
    'e' :: exponentText (point - 1)

/-- Digits without the zeros at the end. -/
def trimmed (digits : List Char) : List Char :=
  (digits.reverse.dropWhile (· == '0')).reverse

end Decimal

namespace Binary64

def signText (negative : Bool) : List Char :=
  if negative then ['-'] else []

/-- The default text of the magnitude of a finite number. -/
def magnitudeText (units : Nat) : List Char :=
  if units = 0 then ['0', '.', '0']
  else
    let decimal := shortest units
    let digits := Decimal.trimmed decimal.text
    if -4 < decimal.point ∧ decimal.point ≤ 16 then Decimal.positional digits decimal.point
    else Decimal.scientific digits decimal.point

def text : Binary64 → String
  | nan => "nan"
  | infinite negative => if negative then "-inf" else "inf"
  | finite negative units => String.ofList (signText negative ++ magnitudeText units)

def padded (width : Nat) (digits : List Char) : List Char :=
  List.replicate (width - digits.length) '0' ++ digits

/-- How many digits are looked at: in neither layout has a number more that are not zero. -/
def mostPlaces : Nat := 1074

/-- A magnitude with a fixed count of digits after the point; `pointed` keeps the point when
there are none. -/
def fixedText (units places : Nat) (pointed : Bool) : List Char :=
  let known := min places mostPlaces
  let digits := padded (known + 1) (roundedAt units (-(known : Int))).text ++
    List.replicate (places - known) '0'
  let split := digits.length - places
  digits.take split ++ (if places = 0 && !pointed then [] else '.' :: digits.drop split)

/-- A magnitude with one digit before the point, a fixed count after it, and an exponent. -/
def scientificText (units places : Nat) (pointed : Bool) : List Char :=
  let known := min places mostPlaces
  let decimal : Decimal := if units = 0 then ⟨0, -(known : Int)⟩ else roundedTo units (known + 1)
  let digits := padded (known + 1) decimal.text ++ List.replicate (places - known) '0'
  let exponent := if units = 0 then 0 else decimal.point - 1
  digits.take 1 ++ (if places = 0 && !pointed then [] else '.' :: digits.drop 1) ++
    'e' :: Decimal.exponentText exponent

/-- A fraction without the zeros at its end, and without its point when nothing is left. -/
def trimFraction (body : List Char) : List Char :=
  if body.contains '.' then
    let kept := (body.reverse.dropWhile (· == '0'))
    (if kept.head? == some '.' then kept.drop 1 else kept).reverse
  else body

/-- A magnitude with a count of significant digits, positional while the exponent of the leading
digit is at least `-4` and below the count; `pointed` keeps the zeros at the end. -/
def significantText (units count : Nat) (pointed : Bool) : List Char :=
  let wanted := if count = 0 then 1 else if pointed then count else min count (mostPlaces + 1)
  let exponent : Int :=
    if units = 0 then 0 else (roundedTo units (min wanted (mostPlaces + 1))).point - 1
  if -4 ≤ exponent ∧ exponent < wanted then
    let body := fixedText units ((wanted : Int) - 1 - exponent).toNat pointed
    if pointed then body else trimFraction body
  else
    let body := scientificText units (wanted - 1) pointed
    if pointed then body
    else trimFraction (body.takeWhile (· != 'e')) ++ body.dropWhile (· != 'e')

end Binary64

namespace Number

def text : Number → String
  | whole n => intText n
  | float x => x.text

end Number

end ManifestOwnership
