import WasmLens.Number.Power

/-!
# Binary floating point formats

A format is a sign bit, a biased exponent and a fraction. `Format.decode` reads a bit pattern as an
exact number `± significand * 2 ^ exponent`, and `Format.round` goes back: it takes an exact quotient
of naturals to the nearest pattern, a half to the even one. Every operation on floats in this library
is one exact computation between these two, so binary32 and binary64 share all of it.
-/
namespace WasmLens.Floating

/-- A binary interchange format: one sign bit, then `exponentBits`, then `fractionBits`. -/
structure Format where
  exponentBits : Nat
  fractionBits : Nat
  deriving Repr, DecidableEq

def binary32 : Format := ⟨8, 23⟩

def binary64 : Format := ⟨11, 52⟩

/-- What a bit pattern stands for. A finite pattern is `± significand * 2 ^ exponent`. -/
inductive Datum where
  | nan
  | infinite (negative : Bool)
  | finite (negative : Bool) (significand : Nat) (exponent : Int)
  deriving Repr, DecidableEq

/-! ## Rounding a quotient -/

/-- The natural number nearest to `num / den`, a half going to the even neighbour. -/
def roundHalfEven (num den : Nat) : Nat :=
  let quotient := num / den
  let twice := 2 * (num % den)
  if twice < den ∨ (twice = den ∧ quotient % 2 = 0) then quotient else quotient + 1

/-- Numerator and denominator of `num / den / 2 ^ exponent`. -/
def scale (num den : Nat) (exponent : Int) : Nat × Nat :=
  if 0 ≤ exponent then (num, den * twoTo exponent.toNat) else (num * twoTo (-exponent).toNat, den)

namespace Format

variable (f : Format)

def width : Nat := 1 + f.exponentBits + f.fractionBits

/-- The sign bit alone. -/
def signBit : Nat := twoTo (f.exponentBits + f.fractionBits)

def bias : Int := (twoTo (f.exponentBits - 1) : Int) - 1

/-- The exponent of the last fraction bit of the smallest numbers. -/
def leastExponent : Int := 1 - f.bias - f.fractionBits

/-- The pattern of positive infinity, one above the largest finite one. -/
def infinity : Nat := (twoTo f.exponentBits - 1) * twoTo f.fractionBits

/-- The quiet NaN without payload, which every operation answers that has no number to give. -/
def quietNan : Nat := f.infinity + twoTo (f.fractionBits - 1)

/-- Puts the sign on a magnitude. -/
def signed (negative : Bool) (magnitude : Nat) : Nat :=
  if negative then f.signBit + magnitude else magnitude

/-- The sign of a pattern, NaN included. -/
def isNegative (bits : Nat) : Bool := f.signBit ≤ bits

/-- A pattern without its sign. -/
def magnitude (bits : Nat) : Nat := bits % f.signBit

/-- The number that a bit pattern stands for. -/
def decode (bits : Nat) : Datum :=
  let negative := f.isNegative bits
  let magnitude := f.magnitude bits
  let exponent := magnitude / twoTo f.fractionBits
  let fraction := magnitude % twoTo f.fractionBits
  if exponent = twoTo f.exponentBits - 1 then
    if fraction = 0 then .infinite negative else .nan
  else if exponent = 0 then
    .finite negative fraction f.leastExponent
  else
    .finite negative (twoTo f.fractionBits + fraction) (f.leastExponent + (exponent - 1 : Nat))

/-- The exponent at which `num / den` has a whole significand of one bit more than the fraction, or
the least one of the format if the quotient is too small for that. -/
def exponentOf (num den : Nat) : Int :=
  let guess : Int := (num.log2 : Int) - den.log2 - f.fractionBits
  let (n, d) := scale num den guess
  max f.leastExponent (if n < d * twoTo f.fractionBits then guess - 1 else guess)

/-- The pattern nearest to `± num / den`, a half going to the even one; beyond the largest finite
number it is infinity. The significand is added to the exponent field and not written into it, so a
significand that rounds up to the next power of two carries into the exponent by itself. -/
def round (negative : Bool) (num den : Nat) : Nat :=
  if num = 0 then f.signed negative 0
  else
    let exponent := f.exponentOf num den
    let (n, d) := scale num den exponent
    let steps := (exponent - f.leastExponent).toNat
    f.signed negative (min f.infinity (steps * twoTo f.fractionBits + roundHalfEven n d))

/-- The pattern nearest to `± significand * 2 ^ exponent`. -/
def ofDyadic (negative : Bool) (significand : Nat) (exponent : Int) : Nat :=
  let (num, den) := scale significand 1 (-exponent)
  f.round negative num den

/-- The pattern nearest to an integer; zero is positive. -/
def ofInt (n : Int) : Nat := f.round (n < 0) n.natAbs 1

/-- The pattern nearest to a datum; a NaN loses its payload. -/
def encode : Datum → Nat
  | .nan => f.quietNan
  | .infinite negative => f.signed negative f.infinity
  | .finite negative significand exponent => f.ofDyadic negative significand exponent

end Format

end WasmLens.Floating
