/-!
# Character classes

A class of characters is given by the code point ranges that make it up, the way a Unicode
property is published. Membership is a search through the ranges; nothing depends on their
order.
-/

namespace EntityQuery.Text

/-- A set of characters, as inclusive ranges of code points. -/
structure CharClass where
  ranges : List (Nat × Nat)

namespace CharClass

/-- Some range of the class holds the code point of `c`. -/
def contains (cls : CharClass) (c : Char) : Bool :=
  cls.ranges.any fun range => range.1 ≤ c.toNat && c.toNat ≤ range.2

theorem contains_iff {cls : CharClass} {c : Char} :
    cls.contains c = true ↔ ∃ range ∈ cls.ranges, range.1 ≤ c.toNat ∧ c.toNat ≤ range.2 := by
  simp [contains]

end CharClass

end EntityQuery.Text
