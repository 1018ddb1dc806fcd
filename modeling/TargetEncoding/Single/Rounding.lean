/-! # Rounding to a number of significant bits

A natural number is rounded to its leading bits in two steps: the place of the last bit that is
kept follows from the number's length, and the number goes to the nearest multiple of that
place. -/

namespace TargetEncoding

/-- The number of binary digits of `n`, none for zero. -/
def bitLength (n : Nat) : Nat :=
  if n = 0 then 0 else n.log2 + 1

/-- The multiple of `step` nearest to `n`; of two equally near ones the even multiple. -/
def roundToMultiple (step n : Nat) : Nat :=
  if 2 * (n % step) < step ∨ (2 * (n % step) = step ∧ n / step % 2 = 0) then n / step * step
  else (n / step + 1) * step

/-- `n` rounded to its leading `bits` binary digits, ties to the even neighbour. -/
def roundSignificant (bits n : Nat) : Nat :=
  roundToMultiple (Nat.pow 2 (bitLength n - bits)) n

end TargetEncoding
