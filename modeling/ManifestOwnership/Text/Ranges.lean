/-! # Sets of characters as ranges of code points

A Unicode property is held as the list of its inclusive code point ranges. Membership is by
search, which keeps a property a plain value that a table module can state.
-/

namespace ManifestOwnership.Text

/-- Inclusive ranges of code points. -/
abbrev Ranges := List (Nat × Nat)

def Ranges.holds (ranges : Ranges) (c : Char) : Bool :=
  ranges.any fun (first, last) => first ≤ c.toNat && c.toNat ≤ last

end ManifestOwnership.Text
