import TargetEncoding.Index
import TargetEncoding.Single.Rounding

/-! # Single-precision numbers

The cells of feature matrices are binary floating-point numbers with 24 significant bits.  The
smallest distance between two of them is 2⁻¹⁴⁹, so a finite number is a sign and a count of such
units, and every operation is exact arithmetic on counts followed by one rounding. -/

namespace TargetEncoding

/-- A single-precision number.  `units` counts multiples of 2⁻¹⁴⁹. -/
inductive Single where
  | nan
  | infinite (negative : Bool)
  | finite (negative : Bool) (units : Nat)
deriving DecidableEq

namespace Single

/-- The binary digits that are kept. -/
def significantBits : Nat := 24

/-- The number one, in units. -/
def unitsPerOne : Nat := Nat.pow 2 149

/-- The number 2¹²⁸, the first magnitude out of reach, in units. -/
def unitsLimit : Nat := Nat.pow 2 128 * unitsPerOne

/-- The number nearest to so many units; infinite when out of reach. -/
def ofUnits (negative : Bool) (units : Nat) : Single :=
  let rounded := roundSignificant significantBits units
  if rounded < unitsLimit then .finite negative rounded else .infinite negative

/-- The number nearest to a whole number. -/
def ofNat (n : Nat) : Single :=
  ofUnits false (n * unitsPerOne)

/-- Equality of values: nothing equals `nan`, and the two zeros are equal. -/
def same : Single → Single → Bool
  | .infinite a, .infinite b => a == b
  | .finite a m, .finite b n => m == n && (a == b || m == 0)
  | _, _ => false

instance : BEq Single := ⟨same⟩

/-- The rounded sum; opposite infinities have none, and opposite numbers add up to the positive
zero. -/
def add : Single → Single → Single
  | .nan, _ => .nan
  | _, .nan => .nan
  | .infinite a, .infinite b => if a = b then .infinite a else .nan
  | .infinite a, .finite _ _ => .infinite a
  | .finite _ _, .infinite b => .infinite b
  | .finite a m, .finite b n =>
    if a = b then ofUnits a (m + n)
    else if m = n then .finite false 0
    else if n < m then ofUnits a (m - n)
    else ofUnits b (n - m)

instance : Add Single := ⟨add⟩
instance (n : Nat) : OfNat Single n := ⟨ofNat n⟩

/-- The whole part as an index: negative numbers and `nan` give 0, too large ones the largest
index. -/
def toIndex : Single → Nat
  | .finite false units => min (units / unitsPerOne) largestIndex
  | .infinite false => largestIndex
  | _ => 0

/-- The value, when it is whole. -/
def toInt? : Single → Option Int
  | .finite negative units =>
    if units % unitsPerOne = 0 then
      some (if negative then -(units / unitsPerOne : Nat) else (units / unitsPerOne : Nat))
    else none
  | _ => none

/-- The weight of the lowest exponent bit in the 32-bit pattern. -/
def exponentUnit : Nat := Nat.pow 2 (significantBits - 1)

/-- The weight of the sign bit in the 32-bit pattern. -/
def signUnit : Nat := Nat.pow 2 31

/-- The 32-bit pattern: sign, biased exponent, fraction.  The first binade and the numbers below
it share their spacing, so both are written as the count of units itself. -/
def toBits : Single → Nat
  | .nan => 255 * exponentUnit + exponentUnit / 2
  | .infinite negative => negative.toNat * signUnit + 255 * exponentUnit
  | .finite negative units =>
    let dropped := bitLength units - significantBits
    negative.toNat * signUnit + dropped * exponentUnit + units / Nat.pow 2 dropped

/-- The number with the given 32-bit pattern. -/
def ofBits (bits : Nat) : Single :=
  let negative := bits / signUnit % 2 == 1
  let exponent := bits / exponentUnit % 256
  let fraction := bits % exponentUnit
  if exponent = 255 then
    if fraction = 0 then .infinite negative else .nan
  else if exponent = 0 then
    .finite negative fraction
  else
    .finite negative ((exponentUnit + fraction) * Nat.pow 2 (exponent - 1))

end Single

end TargetEncoding
