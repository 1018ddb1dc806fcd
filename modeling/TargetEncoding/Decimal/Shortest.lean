import TargetEncoding.Decimal.Natural

/-! # Shortest decimals

A double-precision number is written with the fewest digits that read back as the number itself, and
with the nearest such digits.  The numbers that read back form an interval around the value; the
decimal grids 10⁹, 10⁸, … are tried from coarse to fine until one has a point in it. -/

namespace TargetEncoding

/-- A positive finite number `significand * 2 ^ exponent` and whether the numbers below it lie
closer together than those above. -/
structure Binary where
  significand : Nat
  exponent : Int
  closerBelow : Bool

/-- A decimal number `digits * 10 ^ exponent`. -/
structure Decimal where
  digits : Nat
  exponent : Int

namespace Binary

/-- The number in a 64-bit pattern without its sign. -/
def ofBits (bits : Nat) : Binary :=
  let exponent : Nat := bits / Nat.pow 2 52 % Nat.pow 2 11
  let fraction := bits % Nat.pow 2 52
  if exponent = 0 then ⟨fraction, -1074, false⟩
  else ⟨Nat.pow 2 52 + fraction, (exponent : Int) - 1075, fraction == 0 && exponent != 1⟩

/-- Compares `quarters / 4` of the last binary place with `halves / 2` of the decimal place `k`. -/
def compareAt (b : Binary) (quarters : Nat) (k : Int) (halves : Nat) : Ordering :=
  compare (quarters * Nat.pow 2 b.exponent.toNat * Nat.pow 10 (-k).toNat)
    (2 * halves * Nat.pow 2 (-b.exponent).toNat * Nat.pow 10 k.toNat)

/-- The decimal `n * 10 ^ k` reads back as the number.  The ends of the interval do so if the last
binary digit is even. -/
def reads (b : Binary) (k : Int) (n : Nat) : Bool :=
  let low := b.compareAt (4 * b.significand - if b.closerBelow then 1 else 2) k (2 * n)
  let high := b.compareAt (4 * b.significand + 2) k (2 * n)
  if b.significand % 2 = 0 then low.isLE && high.isGE else low.isLT && high.isGT

/-- The point of the grid `10 ^ k` at the number or next below it. -/
def floorAt (b : Binary) (k : Int) : Nat :=
  b.significand * Nat.pow 2 b.exponent.toNat * Nat.pow 10 (-k).toNat /
    (Nat.pow 2 (-b.exponent).toNat * Nat.pow 10 k.toNat)

/-- The point of the grid `10 ^ k` that reads back; of two the nearer, and of two equally near ones
the even. -/
def onGrid? (b : Binary) (k : Int) : Option Decimal :=
  let n := b.floorAt k
  match b.reads k n, b.reads k (n + 1) with
  | true, true =>
    match b.compareAt (4 * b.significand) k (2 * n + 1) with
    | .lt => some ⟨n, k⟩
    | .gt => some ⟨n + 1, k⟩
    | .eq => some ⟨n + n % 2, k⟩
  | true, false => some ⟨n, k⟩
  | false, true => some ⟨n + 1, k⟩
  | false, false => none

/-- The decimal with the fewest digits that reads back.  No number reaches `10 ^ 309`, and the
decimal places down to `10 ^ (-324)` tell all numbers apart. -/
def shortest (b : Binary) : Decimal :=
  ((List.range 634).findSome? fun (i : Nat) => b.onGrid? (309 - i)).getD ⟨0, 0⟩

end Binary

namespace Decimal

/-- The decimal in positional notation if its first digit stands for no less than `10 ^ (-5)` and
for less than `10 ^ 16`, and otherwise with an exponent that always shows its sign. -/
def render (d : Decimal) : List Char :=
  let digits := decimalDigits d.digits
  let point : Int := digits.length + d.exponent
  if -5 < point && point ≤ 0 then
    '0' :: '.' :: List.replicate (-point).toNat '0' ++ digits
  else if 0 < point && point ≤ 16 then
    if 0 ≤ d.exponent then digits ++ List.replicate d.exponent.toNat '0' ++ ['.', '0']
    else digits.take point.toNat ++ '.' :: digits.drop point.toNat
  else
    let tail := digits.drop 1
    let scale := point - 1
    digits.take 1 ++ (if tail.isEmpty then [] else '.' :: tail) ++
      ['e', if scale < 0 then '-' else '+'] ++ decimalDigits scale.natAbs

end Decimal

/-- A finite number in decimal notation. -/
def renderFloat (x : Float) : String :=
  let bits := x.toBits.toNat
  let magnitude := bits % Nat.pow 2 63
  let sign := if Nat.pow 2 63 ≤ bits then ['-'] else []
  String.ofList <| sign ++
    if magnitude = 0 then ['0', '.', '0'] else (Binary.ofBits magnitude).shortest.render

end TargetEncoding
