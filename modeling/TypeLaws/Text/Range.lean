/-!
Sets of characters given as ascending lists of code point ranges, both ends included.
-/

namespace TypeLaws.Text

/-- A set of characters, as the ranges of code points it covers. -/
abbrev Ranges := List (Nat × Nat)

def Ranges.has (ranges : Ranges) (c : Char) : Bool :=
  ranges.any fun range => range.1 ≤ c.toNat && c.toNat ≤ range.2

end TypeLaws.Text
