/-! # Machine indices

Positions, counts and ids are 64-bit words: a number read from outside is refused when it does not
fit, and a number computed from a larger range is cut off at the largest word. -/

namespace TargetEncoding

/-- The first number that is no longer a 64-bit word. -/
def indexLimit : Nat := Nat.pow 2 64

/-- The largest 64-bit word. -/
def largestIndex : Nat := indexLimit - 1

theorem largestIndex_lt : largestIndex < indexLimit := by decide

end TargetEncoding
