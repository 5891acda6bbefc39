namespace TypedTree.Text

/-- Inclusive ranges of code points, in ascending order. -/
structure CharClass where
  ranges : List (Nat × Nat)

namespace CharClass

def contains (charClass : CharClass) (c : Char) : Bool :=
  charClass.ranges.any fun range => range.1 ≤ c.toNat && c.toNat ≤ range.2

end CharClass

end TypedTree.Text
