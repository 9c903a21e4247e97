/-!
# Tables of characters

A property of characters is given by the ranges of code points that have it.
-/

namespace ShaderFlow

/-- Closed ranges of code points. -/
abbrev CharTable := List (Nat × Nat)

namespace CharTable

/-- Whether a character lies in one of the ranges. -/
def contains (t : CharTable) (c : Char) : Bool :=
  t.any fun (first, last) => first ≤ c.toNat && c.toNat ≤ last

end CharTable

end ShaderFlow
