/-!
# Whole numbers

The whole number nearest to a binary64 value, in decimal.  The value is taken exactly, and a half
goes to the even neighbour.
-/

namespace Muster.Text.WholeNumber

/-- The whole number nearest to the quotient, the even one of two. -/
def roundQuotient (numerator denominator : Nat) : Nat :=
  let quotient := numerator / denominator
  let remainder := numerator % denominator
  if 2 * remainder < denominator then quotient
  else if denominator < 2 * remainder then quotient + 1
  else quotient + quotient % 2

/-- The fraction field of a value. -/
def fraction (bits : Nat) : Nat :=
  bits % (1 <<< 52)

/-- The exponent field of a value. -/
def exponent (bits : Nat) : Nat :=
  (bits >>> 52) % (1 <<< 11)

/-- The whole number nearest to the size of a finite value. -/
def nearest (bits : Nat) : Nat :=
  let significand := if exponent bits = 0 then fraction bits else fraction bits + (1 <<< 52)
  let exponent := max (exponent bits) 1
  if 1075 ≤ exponent then significand <<< (exponent - 1075)
  else roundQuotient significand (1 <<< (1075 - exponent))

/-- The text of a value without decimals.  The sign is kept, also in front of zero. -/
def text (bits : UInt64) : String :=
  let bits := bits.toNat
  let sign := if bits < 1 <<< 63 then "" else "-"
  if exponent bits = 2047 then if fraction bits = 0 then sign ++ "inf" else "NaN"
  else sign ++ toString (nearest bits)

end Muster.Text.WholeNumber
