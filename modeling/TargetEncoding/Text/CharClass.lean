/-! # Classes of characters

A class of characters is a list of closed ranges of code points.  The tables of the Unicode
properties that the library consults (`isBlank`, `isCased`, `isCaseIgnorable`, `isExtending`,
`isDefaultIgnorable`, `isUnprintable`) are values of this type, one module each. -/

namespace TargetEncoding

/-- A set of code points, written as the closed ranges that make it up. -/
abbrev CharClass := List (Nat × Nat)

/-- Membership of a character: some range holds its code point. -/
def CharClass.contains (cls : CharClass) (c : Char) : Bool :=
  cls.any fun (first, last) => first ≤ c.toNat && c.toNat ≤ last

end TargetEncoding
