import TargetEncoding.Json.Fault

/-! # Strings in a JSON text

A string literal is read character by character up to the closing quote.  A literal whose content is
of no interest is passed over, and then surrogate escapes need not come in pairs.  Writing escapes
what has to be escaped and nothing else.

All functions here start behind the opening quote. -/

namespace TargetEncoding.Json.StringLiteral

/-- The value of a hexadecimal digit. -/
def hexValue? (c : Char) : Option Nat :=
  if '0' ≤ c && c ≤ '9' then some (c.toNat - '0'.toNat)
  else if 'a' ≤ c && c ≤ 'f' then some (c.toNat - 'a'.toNat + 10)
  else if 'A' ≤ c && c ≤ 'F' then some (c.toNat - 'A'.toNat + 10)
  else none

/-- The number written by the four hexadecimal digits in front.  A text of fewer than four bytes
counts as broken off. -/
def fourHex : List Char → Except Fault Nat
  | a :: b :: c :: d :: _ =>
    match hexValue? a, hexValue? b, hexValue? c, hexValue? d with
    | some a, some b, some c, some d => .ok (((a * 16 + b) * 16 + c) * 16 + d)
    | _, _, _, _ => .error .malformed
  | cs => if (String.ofList cs).utf8ByteSize < 4 then .error .unexpectedEnd else .error .malformed

/-- The character that a backslash and a letter stand for. -/
def shortEscape? : Char → Option Char
  | '"' => some '"'
  | '\\' => some '\\'
  | '/' => some '/'
  | 'b' => some '\x08'
  | 'f' => some '\x0c'
  | 'n' => some '\n'
  | 'r' => some '\r'
  | 't' => some '\t'
  | _ => none

/-- The number is the first half of a surrogate pair. -/
def isLeading (n : Nat) : Bool := 0xD800 ≤ n && n < 0xDC00

/-- The number is the second half of a surrogate pair. -/
def isTrailing (n : Nat) : Bool := 0xDC00 ≤ n && n < 0xE000

/-- The character that a surrogate pair stands for. -/
def pairedChar (leading trailing : Nat) : Char :=
  Char.ofNat ((leading - 0xD800) * 0x400 + (trailing - 0xDC00) + 0x10000)

/-- Reads the escape of the second half of a surrogate pair. -/
def trailingHalf : List Char → Except Fault Nat
  | [] => .error .unexpectedEnd
  | ['\\'] => .error .unexpectedEnd
  | '\\' :: 'u' :: cs => do
    let n ← fourHex cs
    if isTrailing n then return n else throw .malformed
  | _ => .error .malformed

/-- The number of characters in four hexadecimal digits. -/
def hexLength : Nat := 4

/-- The number of characters in a whole hexadecimal escape. -/
def hexEscapeLength : Nat := 6

/-- The character that an escape stands for, and the number of characters that the escape has
behind its backslash. -/
def escaped : List Char → Except Fault (Char × Nat)
  | [] => .error .unexpectedEnd
  | 'u' :: cs => do
    let n ← fourHex cs
    if isTrailing n then throw .malformed
    else if isLeading n then
      let trailing ← trailingHalf (cs.drop hexLength)
      return (pairedChar n trailing, 1 + hexLength + hexEscapeLength)
    else return (Char.ofNat n, 1 + hexLength)
  | c :: _ =>
    match shortEscape? c with
    | some d => .ok (d, 1)
    | none => .error .malformed

/-- The first character that may stand for itself. -/
def isControl (c : Char) : Bool := c < ' '

/-- The character that `c`, followed by `cs`, stands for, and how much of `cs` belongs to it. -/
def piece (c : Char) (cs : List Char) : Except Fault (Char × Nat) :=
  if c = '\\' then escaped cs
  else if isControl c then .error .malformed
  else .ok (c, 0)

/-- Reads a literal: its content, and what follows it. -/
def read (cs : List Char) : Except Fault (List Char × List Char) :=
  match cs with
  | [] => .error .unexpectedEnd
  | c :: cs =>
    if c = '"' then .ok ([], cs)
    else do
      let (d, n) ← piece c cs
      let (content, rest) ← read (cs.drop n)
      return (d :: content, rest)
termination_by cs.length
decreasing_by rw [List.length_drop, List.length_cons]; omega

/-- The number of characters that an escape has behind its backslash, when what it stands for is of
no interest. -/
def passEscaped : List Char → Except Fault Nat
  | [] => .error .unexpectedEnd
  | 'u' :: cs => do
    discard (fourHex cs)
    return 1 + hexLength
  | c :: _ => if (shortEscape? c).isSome then .ok 1 else .error .malformed

/-- How much of `cs` belongs to the character that begins with `c`. -/
def passPiece (c : Char) (cs : List Char) : Except Fault Nat :=
  if c = '\\' then passEscaped cs
  else if isControl c then .error .malformed
  else .ok 0

/-- Passes over a literal; gives what follows it. -/
def pass (cs : List Char) : Except Fault (List Char) :=
  match cs with
  | [] => .error .unexpectedEnd
  | c :: cs =>
    if c = '"' then .ok cs
    else do
      let n ← passPiece c cs
      pass (cs.drop n)
termination_by cs.length
decreasing_by rw [List.length_drop, List.length_cons]; omega

/-- The hexadecimal digit of a number below 16. -/
def hexDigit (n : Nat) : Char :=
  if n < 10 then digitChar n else Char.ofNat ('a'.toNat + (n - 10))

/-- One character of a written literal. -/
def writeChar (c : Char) : List Char :=
  if c = '"' then ['\\', '"']
  else if c = '\\' then ['\\', '\\']
  else if c = '\x08' then ['\\', 'b']
  else if c = '\x0c' then ['\\', 'f']
  else if c = '\n' then ['\\', 'n']
  else if c = '\r' then ['\\', 'r']
  else if c = '\t' then ['\\', 't']
  else if isControl c then ['\\', 'u', '0', '0', hexDigit (c.toNat / 16), hexDigit (c.toNat % 16)]
  else [c]

/-- A literal with the given content, with both its quotes. -/
def write (s : String) : List Char :=
  '"' :: s.toList.flatMap writeChar ++ ['"']

end TargetEncoding.Json.StringLiteral
