import TargetEncoding.Text.CharClass

/-! # Default-ignorable characters

The Unicode property `Default_Ignorable_Code_Point`: characters that are not drawn at all where
nothing makes use of them, such as joiners, variation selectors, tags and the fillers of Hangul
syllables, and the code points kept free for more of the kind. -/

namespace TargetEncoding

/-- The code points of the property `Default_Ignorable_Code_Point`. -/
def CharClass.defaultIgnorable : CharClass :=
  [(0x00AD, 0x00AD), (0x034F, 0x034F), (0x061C, 0x061C), (0x115F, 0x1160), (0x17B4, 0x17B5),
   (0x180B, 0x180F), (0x200B, 0x200F), (0x202A, 0x202E), (0x2060, 0x206F), (0x3164, 0x3164),
   (0xFE00, 0xFE0F), (0xFEFF, 0xFEFF), (0xFFA0, 0xFFA0), (0xFFF0, 0xFFF8), (0x1BCA0, 0x1BCA3),
   (0x1D173, 0x1D17A), (0xE0000, 0xE0FFF)]

/-- The character is not drawn, whatever its general category. -/
def isDefaultIgnorable (c : Char) : Bool :=
  CharClass.defaultIgnorable.contains c

end TargetEncoding
