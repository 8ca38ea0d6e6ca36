import ManifestOwnership.Text.Unprintable
import ManifestOwnership.Text.Surrogate

/-! # Quoted text

The quoted form of a text inside a printed list or object: single quotes unless only double quotes
avoid an escape, and an escape for every character that does not print.
-/

namespace ManifestOwnership.Text

/-- A number in hexadecimal digits, filled up with zeros to a width. -/
def hexadecimal (width n : Nat) : List Char :=
  let digits := Nat.toDigits 16 n
  List.replicate (width - digits.length) '0' ++ digits

namespace Quoted

/-- The shortest escape that holds the code point of a character. -/
def escape (c : Char) : List Char :=
  let n := codePoint c
  if n < 0x100 then '\x5c' :: 'x' :: hexadecimal 2 n
  else if n < 0x10000 then '\x5c' :: 'u' :: hexadecimal 4 n
  else '\x5c' :: 'U' :: hexadecimal 8 n

/-- The form of one character between two quote characters. -/
def form (quote c : Char) : List Char :=
  if c = quote ∨ c = '\x5c' then ['\x5c', c]
  else if c = '\n' then ['\x5c', 'n']
  else if c = '\r' then ['\x5c', 'r']
  else if c = '\t' then ['\x5c', 't']
  else if unprintableRanges.holds c then escape c
  else [c]

end Quoted

def quoted (s : String) : String :=
  let characters := s.toList
  let quote :=
    if characters.contains '\x27' && !characters.contains '\x22' then '\x22' else '\x27'
  String.ofList (quote :: characters.flatMap (Quoted.form quote) ++ [quote])

end ManifestOwnership.Text
