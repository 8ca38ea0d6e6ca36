import ManifestOwnership.Number.Line
import ManifestOwnership.Text.Digit

/-! # Reading numerals

Which texts are numbers, and which number each of them is. A numeral may be signed, have a
fraction and an exponent, group its digits by single underscores and use the digits of any script;
`inf`, `infinity` and `nan` count in any case. A numeral without point and exponent is an integer
of any size the binary64 format still reaches, and every other numeral is a binary64 number.
-/

namespace ManifestOwnership.Numeral

/-- The digits without their single underscores, each of which must stand between two digits. -/
def ungroup? (afterDigit : Bool) : List Char → Option (List Char)
  | [] => some []
  | ['_'] => none
  | '_' :: c :: rest =>
    if afterDigit && c.isDigit then (ungroup? true rest).map (c :: ·) else none
  | c :: rest => (ungroup? c.isDigit rest).map (c :: ·)

def digitsValue (digits : List Char) : Nat :=
  digits.foldl (fun value c => 10 * value + (c.toNat - 0x30)) 0

/-- An optional sign, and whether it is a minus. -/
def splitSign : List Char → Bool × List Char
  | '-' :: rest => (true, rest)
  | '+' :: rest => (false, rest)
  | rest => (false, rest)

/-- The exponent after the digits of a numeral, zero if there is none. -/
def exponent? : List Char → Option Int
  | [] => some 0
  | c :: rest =>
    if c = 'e' ∨ c = 'E' then
      let (negative, digits) := splitSign rest
      if digits.isEmpty || !digits.all (·.isDigit) then none
      else some (if negative then -(digitsValue digits : Int) else digitsValue digits)
    else none

/-- The fraction digits of a numeral and what follows them. -/
def splitFraction : List Char → List Char × List Char
  | '.' :: rest => (rest.takeWhile (·.isDigit), rest.dropWhile (·.isDigit))
  | rest => ([], rest)

/-- The most digits an integer may be written with. -/
def longestInteger : Nat := 4300

/-- The number that an unsigned numeral in basic digits stands for. -/
def unsigned? (negative : Bool) (body : List Char) : Option Number :=
  let word := String.ofList (body.map (·.toLower))
  if word = "inf" ∨ word = "infinity" then some (.float (.infinite negative))
  else if word = "nan" then some (.float .nan)
  else
    let whole := body.takeWhile (·.isDigit)
    let afterWhole := body.dropWhile (·.isDigit)
    let (fraction, afterFraction) := splitFraction afterWhole
    if whole.isEmpty && fraction.isEmpty then none
    else match exponent? afterFraction with
      | none => none
      | some exponent =>
        let value := Binary64.ofDecimal negative (digitsValue (whole ++ fraction))
          (exponent - fraction.length)
        if afterWhole.isEmpty && value.isWhole && whole.length ≤ longestInteger then
          let n := digitsValue whole
          some (.whole (if negative then -(n : Int) else n))
        else some (.float value)

end ManifestOwnership.Numeral

namespace ManifestOwnership

/-- The number that a text without blanks at its ends stands for, if it is a numeral. -/
def Number.ofText? (text : List Char) : Option Number :=
  (Numeral.ungroup? false (text.map Text.basicDigit)).bind fun plain =>
    let (negative, body) := Numeral.splitSign plain
    Numeral.unsigned? negative body

end ManifestOwnership
