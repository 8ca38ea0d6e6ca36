import ManifestOwnership.Value
import ManifestOwnership.Number.Display
import ManifestOwnership.Text.Quoted

/-! # Values as JSON text

The one written form of a value: fields in the order of their names, a blank after each comma and
colon, and only ASCII characters, all others as escaped UTF-16 units.
-/

namespace ManifestOwnership

namespace Json

/-- The escape of one UTF-16 unit. -/
def unit (n : Nat) : List Char :=
  '\x5c' :: 'u' :: Text.hexadecimal 4 n

/-- The form of one character inside a JSON text. -/
def character (c : Char) : List Char :=
  if c = '\x22' ∨ c = '\x5c' then ['\x5c', c]
  else if c = '\n' then ['\x5c', 'n']
  else if c = '\r' then ['\x5c', 'r']
  else if c = '\t' then ['\x5c', 't']
  else if c.toNat = 8 then ['\x5c', 'b']
  else if c.toNat = 12 then ['\x5c', 'f']
  else if 0x20 ≤ c.toNat ∧ c.toNat < 0x7F then [c]
  else
    let n := Text.codePoint c
    if n < 0x10000 then unit n
    else
      let rest := n - 0x10000
      unit (0xD800 + rest / 0x400) ++ unit (0xDC00 + rest % 0x400)

/-- A text between double quotes. -/
def string (s : String) : String :=
  String.ofList ('\x22' :: s.toList.flatMap character ++ ['\x22'])

/-- The JSON form of a binary64 number; the values without a numeral have names. -/
def float : Binary64 → String
  | .nan => "NaN"
  | .infinite negative => if negative then "-Infinity" else "Infinity"
  | x => x.text

/-- Puts a written field before the first one of a later name. -/
def insertField (name body : String) : List (String × String) → List (String × String)
  | [] => [(name, body)]
  | (other, text) :: rest =>
    if name < other then (name, body) :: (other, text) :: rest
    else (other, text) :: insertField name body rest

/-- Written fields between braces. -/
def braced (fields : List (String × String)) : String :=
  "\x7b" ++ ", ".intercalate (fields.map fun (name, body) => string name ++ ": " ++ body) ++ "\x7d"

end Json

namespace Value

mutual

def json : Value → String
  | null => "null"
  | bool b => if b then "true" else "false"
  | int n => intText n
  | float x => Json.float x
  | text s => Json.string s
  | list items => "[" ++ ", ".intercalate (jsonItems items) ++ "]"
  | object fields => Json.braced (jsonFields fields)

def jsonItems : List Value → List String
  | [] => []
  | item :: rest => json item :: jsonItems rest

/-- The written fields of an object in the order of their names. -/
def jsonFields : List (String × Value) → List (String × String)
  | [] => []
  | (name, value) :: rest => Json.insertField name (json value) (jsonFields rest)

end

end Value

end ManifestOwnership
