import TargetEncoding.Text.DefaultIgnorable
import TargetEncoding.Text.Extending
import TargetEncoding.Text.Unprintable

/-! # Quoted text

How a text is shown inside a message: between double quotes, with everything escaped that would
break the line, end the quotation, or not be seen. -/

namespace TargetEncoding

/-- The code point in lower-case hexadecimal digits, between braces. -/
def escapedCodePoint (c : Char) : List Char :=
  ['\\', 'u', '{'] ++ Nat.toDigits 16 c.toNat ++ ['}']

/-- The character would not be seen, or not as itself. -/
def isHidden (c : Char) : Bool :=
  isExtending c || isDefaultIgnorable c || isUnprintable c

/-- One character of a quoted text. -/
def quotedChar (c : Char) : List Char :=
  if c = '\x00' then ['\\', '0']
  else if c = '\t' then ['\\', 't']
  else if c = '\r' then ['\\', 'r']
  else if c = '\n' then ['\\', 'n']
  else if c = '"' then ['\\', '"']
  else if c = '\\' then ['\\', '\\']
  else if isHidden c then escapedCodePoint c
  else [c]

/-- The text between double quotes, escaped where needed. -/
def quoted (s : String) : String :=
  String.ofList ('"' :: s.toList.flatMap quotedChar ++ ['"'])

end TargetEncoding
