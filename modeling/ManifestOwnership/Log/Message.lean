import ManifestOwnership.Value.Display
import ManifestOwnership.Number.Remainder
import ManifestOwnership.Text.Surrogate
import ManifestOwnership.Text.LowerCase

/-! # Messages with arguments

A message is a template in which directives stand for arguments. A directive is a percent sign, an
optional name in parentheses, flags, a width, a precision, and the letter of a conversion. The
arguments are used up in order, or are one value in which names are looked up.
-/

namespace ManifestOwnership.Log.Message

/-- The flags of a directive. -/
structure Flags where
  left : Bool
  plus : Bool
  blank : Bool
  alternate : Bool
  fillZero : Bool

namespace Flags

def none : Flags := ⟨false, false, false, false, false⟩

def read (flags : Flags) : List Char → Flags × List Char
  | [] => (flags, [])
  | c :: rest =>
    match c with
    | '-' => read { flags with left := true } rest
    | '+' => read { flags with plus := true } rest
    | ' ' => read { flags with blank := true } rest
    | '#' => read { flags with alternate := true } rest
    | '0' => read { flags with fillZero := true } rest
    | _ => (flags, c :: rest)

end Flags

/-- The arguments of a message: those left to take in order, and the value that names are looked up
in, if there is one. -/
structure Arguments where
  left : List Value
  named : Option Value

namespace Arguments

/-- A value as the one argument of a message. An object and a list are looked into by name, and can
also go unused. -/
def ofValue (value : Value) : Arguments :=
  match value with
  | .object _ => ⟨[value], some value⟩
  | .list _ => ⟨[value], some value⟩
  | value => ⟨[value], none⟩

/-- Arguments in order. A single object with fields is the one argument. -/
def ofList : List Value → Arguments
  | [.object (field :: rest)] => ofValue (.object (field :: rest))
  | values => ⟨values, none⟩

def take : Arguments → Except Fault (Value × Arguments)
  | ⟨value :: rest, named⟩ => .ok (value, ⟨rest, named⟩)
  | ⟨[], _⟩ => .error .wrongType

/-- The value that names are looked up in. -/
def source (arguments : Arguments) : Except Fault Value :=
  match arguments.named with
  | some value => .ok value
  | none => .error .wrongType

/-- What a name gives; a list knows no names. -/
def lookUp (name : String) : Value → Except Fault Value
  | .object fields =>
    match Fields.get? fields name with
    | some value => .ok value
    | none => .error .missingEntry
  | _ => .error .wrongType

/-- Whether arguments are left that had to be used. -/
def unused (arguments : Arguments) : Bool :=
  arguments.named.isNone && !arguments.left.isEmpty

end Arguments

/-- A converted argument: its sign and base mark, which stand before any filling zeros, and the
rest of it. -/
structure Converted where
  lead : List Char
  body : List Char
  numeric : Bool

def signOf (flags : Flags) (negative : Bool) : List Char :=
  if negative then ['-'] else if flags.plus then ['+'] else if flags.blank then [' '] else []

/-- The most characters that there is room for. -/
def roomLimit : Nat := 1 <<< 26

/-- Fills a converted argument up to a width. -/
def fill (flags : Flags) (width : Nat) (converted : Converted) : Except Fault (List Char) :=
  let missing := width - (converted.lead.length + converted.body.length)
  if roomLimit < width then .error .tooLong
  else if flags.left then .ok (converted.lead ++ converted.body ++ List.replicate missing ' ')
  else if flags.fillZero && converted.numeric then
    .ok (converted.lead ++ List.replicate missing '0' ++ converted.body)
  else .ok (List.replicate missing ' ' ++ converted.lead ++ converted.body)

/-- A text as an argument, cut to the precision. -/
def convertText (precision : Option Nat) (s : String) : Converted :=
  ⟨[], match precision with
    | some n => s.toList.take n
    | none => s.toList, false⟩

def ascii (s : String) : String :=
  String.ofList (s.toList.flatMap fun c => if c.toNat < 128 then [c] else Text.Quoted.escape c)

def truncate : Number → Except Fault Int
  | .whole n => .ok n
  | .float .nan => .error .wrongValue
  | .float (.infinite _) => .error .outOfRange
  | .float (.finite negative units) =>
    let n : Int := (units / Binary64.unitsPerOne : Nat)
    .ok (if negative then -n else n)

def mostDigits : Nat := (1 <<< 31) - 4

/-- An integer in a base, with at least as many digits as the precision says. -/
def convertInteger (flags : Flags) (precision : Option Nat) (base : Nat) (mark : List Char)
    (capital : Bool) (n : Int) : Except Fault Converted :=
  let count := precision.getD 0
  if mostDigits < count then .error .outOfRange
  else if roomLimit < count then .error .tooLong
  else
    let digits := Nat.toDigits base n.natAbs
    let long := List.replicate (count - digits.length) '0' ++ digits
    .ok ⟨signOf flags (n < 0) ++ (if flags.alternate then mark else []),
      if capital then long.map (·.toUpper) else long, true⟩

def floatOf (x : Number) : Except Fault Binary64 :=
  match x.toBinary64? with
  | some y => .ok y
  | none => .error .outOfRange

/-- A finite magnitude in the layout of a conversion letter in small form. -/
def layOut (flags : Flags) (places : Nat) (letter : Char) (units : Nat) : List Char :=
  if letter = 'f' then Binary64.fixedText units places flags.alternate
  else if letter = 'e' then Binary64.scientificText units places flags.alternate
  else Binary64.significantText units places flags.alternate

/-- A binary64 number in the layout of a conversion letter in small form. Only the letter `g` drops
the zeros at the end, so it alone can be asked for more digits than there is room for. -/
def convertFloat (flags : Flags) (precision : Option Nat) (letter : Char) (capital : Bool)
    (x : Binary64) : Except Fault Converted :=
  let places := precision.getD 6
  let whole (negative : Bool) (body : List Char) : Converted :=
    ⟨signOf flags negative, if capital then body.map (·.toUpper) else body, true⟩
  match x with
  | .nan => .ok (whole false "nan".toList)
  | .infinite negative => .ok (whole negative "inf".toList)
  | .finite negative units =>
    if roomLimit < places ∧ (letter ≠ 'g' ∨ flags.alternate) then .error .tooLong
    else .ok (whole negative (layOut flags places letter units))

def numberOf (value : Value) : Except Fault Number :=
  match value.number? with
  | some x => .ok x
  | none => .error .wrongType

def integerOf (value : Value) : Except Fault Int :=
  match value.number? with
  | some (.whole n) => .ok n
  | _ => .error .wrongType

/-- The character of an argument: a text of one character, or a code point. -/
def convertCharacter (value : Value) : Except Fault Converted :=
  match value with
  | .text s => if s.length = 1 then .ok ⟨[], s.toList, false⟩ else .error .wrongType
  | value => do
    let n ← integerOf value
    if n < 0 ∨ 0x110000 ≤ n then throw .outOfRange
    return ⟨[], [Text.ofCodePoint n.toNat], false⟩

def convert (flags : Flags) (precision : Option Nat) (letter : Char) (value : Value) :
    Except Fault Converted :=
  match letter with
  | 's' => .ok (convertText precision value.display)
  | 'r' => .ok (convertText precision value.literal)
  | 'a' => .ok (convertText precision (ascii value.literal))
  | 'c' => convertCharacter value
  | 'd' | 'i' | 'u' => do
    convertInteger flags precision 10 [] false (← truncate (← numberOf value))
  | 'o' => do convertInteger flags precision 8 ['0', 'o'] false (← integerOf value)
  | 'x' => do convertInteger flags precision 16 ['0', 'x'] false (← integerOf value)
  | 'X' => do convertInteger flags precision 16 ['0', 'X'] true (← integerOf value)
  | 'e' | 'f' | 'g' => do
    convertFloat flags precision letter false (← floatOf (← numberOf value))
  | 'E' | 'F' | 'G' => do
    convertFloat flags precision letter.toLower true (← floatOf (← numberOf value))
  | _ => .error .wrongValue

/-- The name in parentheses, which may hold parentheses in pairs, and what follows it. -/
def readName (depth : Nat) (name : List Char) : List Char → Except Fault (String × List Char)
  | [] => .error .wrongValue
  | c :: rest =>
    if c = ')' then
      if depth = 0 then .ok (String.ofList name.reverse, rest)
      else readName (depth - 1) (c :: name) rest
    else readName (if c = '(' then depth + 1 else depth) (c :: name) rest

def mostWidth : Nat := (1 <<< 63) - 1

def mostPrecision : Nat := (1 <<< 31) - 1

/-- A count in digits, or a star that takes it from the arguments; `none` if there is neither. -/
def readCount (most : Nat) (arguments : Arguments) :
    List Char → Except Fault (Option Int × Arguments × List Char)
  | '*' :: rest => do
    let (value, arguments) ← arguments.take
    let count ← integerOf value
    if count < -(most : Int) - 1 ∨ (most : Int) < count then throw .outOfRange
    return (some count, arguments, rest)
  | text => do
    let digits := text.takeWhile (·.isDigit)
    let count : Nat := digits.foldl (fun n c => 10 * n + (c.toNat - 0x30)) 0
    if most < count then throw .wrongValue
    return (if digits.isEmpty then none else some count, arguments, text.dropWhile (·.isDigit))

/-- A precision after a point, zero if no count follows or the count is negative. -/
def readPrecision (arguments : Arguments) :
    List Char → Except Fault (Option Nat × Arguments × List Char)
  | '.' :: rest => do
    let (count, arguments, rest) ← readCount mostPrecision arguments rest
    return (some (count.getD 0).toNat, arguments, rest)
  | text => .ok (none, arguments, text)

/-- The width that a count asks for. A negative one asks for its magnitude, and the lowest of all,
whose magnitude is no count, for none. -/
def widthOf (count : Option Int) : Nat :=
  match count with
  | none => 0
  | some n => if mostWidth < n.natAbs then 0 else n.natAbs

/-- Makes the argument that a name in parentheses gives the next one. -/
def select (arguments : Arguments) : List Char → Except Fault (Arguments × List Char)
  | '(' :: rest => do
    let source ← arguments.source
    let (name, rest) ← readName 0 [] rest
    return (⟨[← Arguments.lookUp name source], arguments.named⟩, rest)
  | text => .ok (arguments, text)

/-- The text after a mark for the size of a number, which means nothing here. -/
def skipSize : List Char → List Char
  | 'h' :: rest => rest
  | 'l' :: rest => rest
  | 'L' :: rest => rest
  | text => text

/-- One directive after its percent sign: what it writes, the arguments left, and the text after
it. -/
def directive (arguments : Arguments) (text : List Char) :
    Except Fault (List Char × Arguments × List Char) := do
  let (arguments, text) ← select arguments text
  let (flags, text) := Flags.none.read text
  let (count, arguments, text) ← readCount mostWidth arguments text
  let flags := { flags with left := flags.left || count.any (· < 0) }
  let (precision, arguments, text) ← readPrecision arguments text
  match skipSize text with
  | [] => throw .wrongValue
  | letter :: rest =>
    let (value, arguments) ← arguments.take
    let converted ← convert flags precision letter value
    return (← fill flags (widthOf count) converted, arguments, rest)

/-- Writes a template with its arguments; a doubled percent sign stands for itself. Every step uses
up at least one character, so the length of the template is fuel enough. -/
def write : Nat → Arguments → List Char → Except Fault (List Char)
  | _, arguments, [] => if arguments.unused then .error .wrongType else .ok []
  | 0, _, _ => .ok []
  | fuel + 1, arguments, '%' :: '%' :: rest => (write fuel arguments rest).map ('%' :: ·)
  | fuel + 1, arguments, '%' :: rest => do
    let (written, arguments, rest) ← directive arguments rest
    return written ++ (← write fuel arguments rest)
  | fuel + 1, arguments, c :: rest => (write fuel arguments rest).map (c :: ·)

def apply (template : String) (arguments : Arguments) : Except Fault String :=
  (write template.length arguments template.toList).map String.ofList

/-- A value with another one put into it: a text is a template, and of numbers the remainder is
left. -/
def combine (value argument : Value) : Except Fault Value :=
  match value with
  | .text template => (apply template (.ofValue argument)).map .text
  | value => do
    match (← numberOf value).remainder? (← numberOf argument) with
    | some (.whole n) => return .int n
    | some (.float x) => return .float x
    | none => throw .outOfRange

end ManifestOwnership.Log.Message
