import GuidAtlas.Text.Basic

/-!
Sets of characters given by ranges of code points, ends included.
-/

namespace GuidAtlas

abbrev CodeRanges := List (Nat × Nat)

namespace CodeRanges

def has (ranges : CodeRanges) (c : Char) : Bool :=
  ranges.any fun (first, last) => first ≤ c.toNat && c.toNat ≤ last

end CodeRanges

end GuidAtlas
