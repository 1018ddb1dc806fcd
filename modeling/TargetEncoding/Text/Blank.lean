import TargetEncoding.Text.CharClass

/-! # Blank characters

The Unicode property `White_Space`.  It holds more than the four blanks of ASCII text, and more
than the ones `Char.isWhitespace` knows. -/

namespace TargetEncoding

/-- The code points of the property `White_Space`. -/
def CharClass.blank : CharClass :=
  [(0x0009, 0x000D), (0x0020, 0x0020), (0x0085, 0x0085), (0x00A0, 0x00A0), (0x1680, 0x1680),
   (0x2000, 0x200A), (0x2028, 0x2029), (0x202F, 0x202F), (0x205F, 0x205F), (0x3000, 0x3000)]

/-- The character separates words wherever it stands. -/
def isBlank (c : Char) : Bool :=
  CharClass.blank.contains c

end TargetEncoding
