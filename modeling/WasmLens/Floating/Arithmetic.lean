import WasmLens.Floating.Format

/-!
# Arithmetic on floats

The operations of both widths, on bit patterns. Each decodes its operands, computes exactly on
`± significand * 2 ^ exponent`, and rounds once at the end. Sign operations work on the pattern
alone and keep the payload of a NaN.
-/
namespace WasmLens.Floating

/-- How a number is brought to an integer. -/
inductive Direction where
  | up
  | down
  | towardZero
  | nearestEven
  deriving Repr, DecidableEq

/-- The largest `r` with `r * r ≤ n`, found bit by bit from `2 ^ bits` downwards. -/
def squareRootBelow (n : Nat) : Nat → Nat → Nat
  | 0, root => root
  | bits + 1, root =>
    let next := root + twoTo bits
    squareRootBelow n bits (if next * next ≤ n then next else root)

def squareRoot (n : Nat) : Nat := squareRootBelow n (n.log2 / 2 + 1) 0

namespace Datum

/-- The integer `± significand * 2 ^ (exponent - base)`, for `base` at most the exponent. -/
private def aligned (base : Int) (negative : Bool) (significand : Nat) (exponent : Int) : Int :=
  let magnitude : Int := (significand * twoTo (exponent - base).toNat : Nat)
  if negative then -magnitude else magnitude

/-- How two numbers stand to each other; `none` if one is a NaN. -/
def compare : Datum → Datum → Option Ordering
  | .nan, _ | _, .nan => none
  | .infinite a, .infinite b =>
    some (if a = b then .eq else if a then .lt else .gt)
  | .infinite a, .finite .. => some (if a then .lt else .gt)
  | .finite .., .infinite b => some (if b then .gt else .lt)
  | .finite a m d, .finite b n e =>
    let base := min d e
    some (Ord.compare (aligned base a m d) (aligned base b n e))

/-- The integer part, toward zero; `none` for a NaN or an infinity. -/
def truncate? : Datum → Option Int
  | .finite negative significand exponent =>
    let (num, den) := scale significand 1 (-exponent)
    some (if negative then -((num / den : Nat) : Int) else (num / den : Nat))
  | _ => none

end Datum

namespace Format

variable (f : Format)

def add (x y : Nat) : Nat :=
  match f.decode x, f.decode y with
  | .nan, _ | _, .nan => f.quietNan
  | .infinite a, .infinite b => if a = b then x else f.quietNan
  | .infinite _, .finite .. => x
  | .finite .., .infinite _ => y
  | .finite a m d, .finite b n e =>
    let base := min d e
    let sum := Datum.aligned base a m d + Datum.aligned base b n e
    if sum = 0 then f.signed (a && b) 0 else f.ofDyadic (sum < 0) sum.natAbs base

/-- Flips the sign bit. -/
def negate (x : Nat) : Nat := f.signed (!f.isNegative x) (f.magnitude x)

/-- Clears the sign bit. -/
def absolute (x : Nat) : Nat := f.magnitude x

/-- The magnitude of the first operand under the sign of the second. -/
def copySign (x y : Nat) : Nat := f.signed (f.isNegative y) (f.magnitude x)

def subtract (x y : Nat) : Nat := f.add x (f.negate y)

def multiply (x y : Nat) : Nat :=
  let negative := f.isNegative x != f.isNegative y
  match f.decode x, f.decode y with
  | .nan, _ | _, .nan => f.quietNan
  | .infinite _, .infinite _ => f.signed negative f.infinity
  | .infinite _, .finite _ n _ | .finite _ n _, .infinite _ =>
    if n = 0 then f.quietNan else f.signed negative f.infinity
  | .finite _ m d, .finite _ n e => f.ofDyadic negative (m * n) (d + e)

def divide (x y : Nat) : Nat :=
  let negative := f.isNegative x != f.isNegative y
  match f.decode x, f.decode y with
  | .nan, _ | _, .nan => f.quietNan
  | .infinite _, .infinite _ => f.quietNan
  | .infinite _, .finite .. => f.signed negative f.infinity
  | .finite .., .infinite _ => f.signed negative 0
  | .finite _ m d, .finite _ n e =>
    if n = 0 then
      if m = 0 then f.quietNan else f.signed negative f.infinity
    else
      let (num, den) := scale m n (e - d)
      f.round negative num den

/-- The root is computed with spare low bits and a last bit that only says whether anything is left,
so rounding the result rounds the root itself. -/
def sqrt (x : Nat) : Nat :=
  match f.decode x with
  | .nan => f.quietNan
  | .infinite negative => if negative then f.quietNan else x
  | .finite negative m e =>
    if m = 0 then x
    else if negative then f.quietNan
    else
      let shift := 2 * f.width + (e % 2).toNat
      let radicand := m * twoTo shift
      let root := squareRoot radicand
      let rest := if root * root = radicand then 0 else 1
      f.ofDyadic false (2 * root + rest) ((e - shift) / 2 - 1)

def minimum (x y : Nat) : Nat :=
  match Datum.compare (f.decode x) (f.decode y) with
  | none => f.quietNan
  | some .lt => x
  | some .gt => y
  | some .eq => if f.isNegative x then x else y

def maximum (x y : Nat) : Nat :=
  match Datum.compare (f.decode x) (f.decode y) with
  | none => f.quietNan
  | some .lt => y
  | some .gt => x
  | some .eq => if f.isNegative x then y else x

/-- A number as an integer of the same format, which keeps the sign of what it was. -/
def toIntegral (direction : Direction) (x : Nat) : Nat :=
  match f.decode x with
  | .nan => f.quietNan
  | .infinite _ => x
  | .finite negative m e =>
    if 0 ≤ e then x
    else
      let den := twoTo (-e).toNat
      let whole := m / den
      let inexact := m % den ≠ 0
      let magnitude := match direction with
        | .towardZero => whole
        | .up => if inexact ∧ !negative then whole + 1 else whole
        | .down => if inexact ∧ negative then whole + 1 else whole
        | .nearestEven => roundHalfEven m den
      f.round negative magnitude 1

/-- A pattern of another format as the nearest one of this format. -/
def convertFrom (source : Format) (x : Nat) : Nat := f.encode (source.decode x)

end Format

end WasmLens.Floating
