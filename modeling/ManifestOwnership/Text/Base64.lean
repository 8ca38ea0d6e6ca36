import ManifestOwnership.Fault

/-! # Base64

Bytes as text in groups of four symbols. Writing pads the last group. Reading is lenient: a
character that is no symbol is skipped, a pad counts only where a group already holds two symbols,
and a group that symbols and pads fill up ends the text, whatever follows it.
-/

namespace ManifestOwnership.Text.Base64

def symbol (digit : Nat) : Char :=
  if digit < 26 then Char.ofNat (0x41 + digit)
  else if digit < 52 then Char.ofNat (0x61 + (digit - 26))
  else if digit < 62 then Char.ofNat (0x30 + (digit - 52))
  else if digit = 62 then '+'
  else '/'

def digit? (c : Char) : Option Nat :=
  if c.isUpper then some (c.toNat - 0x41)
  else if c.isLower then some (c.toNat - 0x61 + 26)
  else if c.isDigit then some (c.toNat - 0x30 + 52)
  else if c = '+' then some 62
  else if c = '/' then some 63
  else none

def encode : List UInt8 → List Char
  | [] => []
  | [a] =>
    let n := a.toNat * 16
    [symbol (n / 64), symbol (n % 64), '=', '=']
  | [a, b] =>
    let n := (a.toNat * 256 + b.toNat) * 4
    [symbol (n / 4096), symbol (n / 64 % 64), symbol (n % 64), '=']
  | a :: b :: c :: rest =>
    let n := (a.toNat * 256 + b.toNat) * 256 + c.toNat
    symbol (n / 262144) :: symbol (n / 4096 % 64) :: symbol (n / 64 % 64) :: symbol (n % 64) ::
      encode rest

/-- The bytes of the digits of one group; bits that do not fill a byte are dropped. -/
def groupBytes : List Nat → List UInt8
  | [x, y] => [UInt8.ofNat ((x * 64 + y) / 16)]
  | [x, y, z] =>
    let n := (x * 64 + y) * 64 + z
    [UInt8.ofNat (n / 1024), UInt8.ofNat (n / 4)]
  | [x, y, z, w] =>
    let n := ((x * 64 + y) * 64 + z) * 64 + w
    [UInt8.ofNat (n / 65536), UInt8.ofNat (n / 256), UInt8.ofNat n]
  | _ => []

/-- Reads on after `groups` whole groups, with the digits of the group begun and its pads. -/
def decodeFrom (groups : Nat) (pending : List Nat) (pads : Nat) :
    List Char → Except Fault (List UInt8)
  | [] =>
    match pending with
    | [] => .ok []
    | [_] => .error (.strayCharacter (4 * groups + 1))
    | _ => .error .incompleteGroup
  | c :: rest =>
    if c = '=' then
      if pending.length < 2 then decodeFrom groups pending pads rest
      else if 4 ≤ pending.length + pads + 1 then .ok (groupBytes pending)
      else decodeFrom groups pending (pads + 1) rest
    else
      match digit? c with
      | none => decodeFrom groups pending pads rest
      | some digit =>
        if pending.length < 3 then decodeFrom groups (pending ++ [digit]) 0 rest
        else (decodeFrom (groups + 1) [] 0 rest).map (groupBytes (pending ++ [digit]) ++ ·)

/-- Reads bytes from a text, which must be ASCII. -/
def decode (text : List Char) : Except Fault (List UInt8) :=
  if text.all fun c => c.toNat < 128 then decodeFrom 0 [] 0 text else .error .notAscii

end ManifestOwnership.Text.Base64
