import ManifestOwnership.Text.CaseTable

/-! # Lower case

Lower case by the Unicode mappings: one code point for one, with two exceptions. A capital I with
a dot becomes a small i and a combining dot, and a capital sigma becomes a final sigma where a
word ends.
-/

namespace ManifestOwnership.Text

namespace LowerCase

/-- The offset of a code point's one-to-one lower-case form. -/
def offset? (n : Nat) : Option Int :=
  (CaseTable.lowerRuns.find? fun run =>
    run.first ≤ n && n ≤ run.last && (n - run.first) % run.stride == 0).map (·.offset)

def single (c : Char) : List Char :=
  if c.toNat = 0x130 then [Char.ofNat 0x69, Char.ofNat 0x307]
  else match offset? c.toNat with
    | some offset => [Char.ofNat (c.toNat + offset).toNat]
    | none => [c]

/-- Whether the first character that counts for case is cased. -/
def leadsWithCased (s : List Char) : Bool :=
  match s.dropWhile CaseTable.skipped.holds with
  | c :: _ => CaseTable.cased.holds c
  | [] => false

/-- Lower case of the characters from here on, given the ones before in reverse. A capital sigma
is final if a cased letter comes before it and none after it. -/
def run (before : List Char) : List Char → List Char
  | [] => []
  | c :: rest =>
    let form :=
      if c.toNat = 0x3A3 then
        [Char.ofNat (if leadsWithCased before && !leadsWithCased rest then 0x3C2 else 0x3C3)]
      else single c
    form ++ run (c :: before) rest

end LowerCase

def lowerCase (s : String) : String :=
  String.ofList (LowerCase.run [] s.toList)

end ManifestOwnership.Text
