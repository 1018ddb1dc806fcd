import TargetEncoding.Decimal.Natural
import TargetEncoding.Index
import TargetEncoding.Json.Fault

/-! # Numbers in a JSON text

A numeral is a sign, digits, and perhaps a fraction and an exponent.  Its value is a 64-bit integer
as long as it is written like one and fits.  Otherwise it is a floating-point number: as many
leading digits as make a 64-bit word, scaled by a power of ten. -/

namespace TargetEncoding.Json

/-- The parts of a number as it is written. -/
structure Numeral where
  negative : Bool
  whole : List Char
  fraction : Option (List Char)
  /-- Whether the exponent is negative, and its digits. -/
  exponent : Option (Bool × List Char)

/-- The value of a numeral. -/
inductive Number where
  | natural (n : Nat)
  /-- The integer `-n`. -/
  | negative (n : Nat)
  | float (x : Float)

/-- Reads the digits in front, of which there must be one. -/
def takeDigits : List Char → Except Fault (List Char × List Char)
  | [] => .error .unexpectedEnd
  | c :: cs =>
    if c.isDigit then .ok (c :: cs.takeWhile Char.isDigit, cs.dropWhile Char.isDigit)
    else .error .malformed

namespace Numeral

/-- Reads the digits before the point.  A zero stands alone. -/
def takeWhole (cs : List Char) : Except Fault (List Char × List Char) := do
  let (digits, rest) ← takeDigits cs
  if digits.head? = some '0' && digits.length ≠ 1 then throw .malformed
  return (digits, rest)

/-- Reads a fraction, if there is one. -/
def takeFraction : List Char → Except Fault (Option (List Char) × List Char)
  | '.' :: cs => do
    let (digits, rest) ← takeDigits cs
    return (some digits, rest)
  | cs => return (none, cs)

/-- Reads the sign of an exponent, if there is one; the result tells whether it is negative. -/
def takeExponentSign : List Char → Bool × List Char
  | '+' :: cs => (false, cs)
  | '-' :: cs => (true, cs)
  | cs => (false, cs)

/-- Reads an exponent, if there is one. -/
def takeExponent : List Char → Except Fault (Option (Bool × List Char) × List Char)
  | [] => return (none, [])
  | c :: cs => do
    if c = 'e' || c = 'E' then
      let (negative, cs) := takeExponentSign cs
      let (digits, rest) ← takeDigits cs
      return (some (negative, digits), rest)
    else return (none, c :: cs)

/-- Reads the sign of a number, if there is one; the result tells whether it is negative. -/
def takeSign : List Char → Bool × List Char
  | '-' :: cs => (true, cs)
  | cs => (false, cs)

/-- Reads a numeral, and gives what follows it. -/
def take (cs : List Char) : Except Fault (Numeral × List Char) := do
  let (negative, cs) := takeSign cs
  let (whole, cs) ← takeWhole cs
  let (fraction, cs) ← takeFraction cs
  let (exponent, cs) ← takeExponent cs
  return (⟨negative, whole, fraction, exponent⟩, cs)

/-- Passes over a numeral whose value is of no interest. -/
def pass (cs : List Char) : Except Fault (List Char) :=
  match take cs with
  | .ok (_, rest) => .ok rest
  | .error _ => .error .malformed

/-- Appends digits to a number as long as it remains a 64-bit word; gives the digits left over. -/
def appendDigits (n : Nat) : List Char → Nat × List Char
  | [] => (n, [])
  | c :: cs =>
    if n * 10 + digitValue c < indexLimit then appendDigits (n * 10 + digitValue c) cs
    else (n, c :: cs)

/-- A power of ten as a floating-point number. -/
def powerOfTen (k : Nat) : Float := Float.ofScientific 1 false k

/-- The largest exponent whose power of ten is finite. -/
def largestPower : Nat := 308

/-- Divides by a power of ten, in steps where it is too large a number itself. -/
def divideByPower (x : Float) (k : Nat) : Float :=
  if k ≤ largestPower then x / powerOfTen k
  else if x == 0 then x
  else divideByPower (x / powerOfTen largestPower) (k - largestPower)
termination_by k
decreasing_by simp only [largestPower] at *; omega

/-- The number `significand * 10 ^ scale`, unless it is out of reach. -/
def scaled (significand : Nat) (scale : Int) : Except Fault Float :=
  let x := significand.toUInt64.toFloat
  if scale < 0 then .ok (divideByPower x scale.natAbs)
  else if scale.toNat ≤ largestPower then
    let y := x * powerOfTen scale.toNat
    if y.isInf then .error .malformed else .ok y
  else if x == 0 then .ok x
  else .error .malformed

/-- The first exponent that is not looked at any more. -/
def exponentLimit : Nat := Nat.pow 2 31

/-- The number with the given significand, scale and written exponent. -/
def floatOf (significand : Nat) (scale : Int) : Option (Bool × List Char) → Except Fault Float
  | none => scaled significand scale
  | some (negative, digits) =>
    let e := valueOfDigits digits
    if e < exponentLimit then scaled significand (if negative then scale - e else scale + e)
    else if significand ≠ 0 && !negative then .error .malformed
    else .ok 0

/-- The value of a number written as an integer that fits into 64 bits.  Negative numbers reach half
as far, and zero with a minus sign is no integer. -/
def integerOf (negative : Bool) (n : Nat) : Number :=
  if !negative then .natural n
  else if n ≠ 0 && n ≤ indexLimit / 2 then .negative n
  else .float (-n.toUInt64.toFloat)

/-- The value of a numeral; one that is out of reach is malformed. -/
def value (n : Numeral) : Except Fault Number := do
  let (significand, left) := appendDigits 0 n.whole
  if left.isEmpty && n.fraction.isNone && n.exponent.isNone then
    return integerOf n.negative significand
  let digits := n.fraction.getD []
  let (significand, ignored) := appendDigits significand digits
  let scale : Int := left.length - (digits.length - ignored.length : Nat)
  let x ← floatOf significand scale n.exponent
  return .float (if n.negative then -x else x)

/-- Reads a number, and gives what follows it. -/
def read (cs : List Char) : Except Fault (Number × List Char) := do
  let (numeral, rest) ← take cs
  return (← numeral.value, rest)

end Numeral

/-- The number as something that was found. -/
def Number.found : Number → Found
  | .natural n => .natural n
  | .negative n => .negative n
  | .float x => .float x

end TargetEncoding.Json
