import WasmLens.Floating.Format

/-!
# Decimal text of floats

A float is written with the fewest digits that read back as the same number of its own width, the
nearest such digits to the number itself, and without an exponent. It is read with one rounding,
from any decimal with an optional point and an optional exponent.
-/
namespace WasmLens.Floating

/-! ## Writing -/

/-- Numerator and denominator of `num / den / 10 ^ exponent`. -/
def scaleTen (num den : Nat) (exponent : Int) : Nat × Nat :=
  if 0 ≤ exponent then (num, den * tenTo exponent.toNat) else (num * tenTo (-exponent).toNat, den)

/-- The numbers that round to one pattern, in quarters of its last place: from `low` to `high` around
`mid`, the ends included when `closed`. -/
structure Neighbourhood where
  low : Nat
  mid : Nat
  high : Nat
  closed : Bool
  /-- A quarter of the last place is `2 ^ exponent`. -/
  exponent : Int

/-- The lower end is nearer where the number is the first of its binade. -/
def Format.neighbourhood (f : Format) (significand : Nat) (exponent : Int) : Neighbourhood :=
  let first := significand = twoTo f.fractionBits ∧ exponent ≠ f.leastExponent
  { low := 4 * significand - (if first then 1 else 2)
    mid := 4 * significand
    high := 4 * significand + 2
    closed := significand % 2 = 0
    exponent := exponent - 2 }

namespace Neighbourhood

variable (n : Neighbourhood)

/-- A decimal `digits * 10 ^ power` that reads back: it lies in the neighbourhood. -/
def contains (digits : Nat) (power : Int) : Bool :=
  let (num, den) := scaleTen digits 1 (-power)
  let (num, den) := scale num den n.exponent
  if n.closed then n.low * den ≤ num ∧ num ≤ n.high * den else n.low * den < num ∧ num < n.high * den

/-- The best multiple of `10 ^ power` that reads back, if there is one: it is one of the two around
the number, and of two the nearer one, the upper of two equally near. -/
def onGrid (power : Int) : Option Nat :=
  let (num, den) := scale n.mid 1 (-n.exponent)
  let (num, den) := scaleTen num den power
  let below := num / den
  let lower := n.contains below power
  let upper := n.contains (below + 1) power
  if upper && (!lower || den ≤ 2 * (num % den)) then some (below + 1)
  else if lower then some below
  else none

/-- Goes from coarse grids to fine ones and stops at the first that has a decimal in reach. -/
def shortestFrom : Nat → Int → Nat × Int
  | 0, power => (0, power)
  | steps + 1, power =>
    match n.onGrid power with
    | some digits => (digits, power)
    | none => shortestFrom steps (power - 1)

/-- The shortest decimal `digits * 10 ^ power` that reads back. The start is above the number's
leading digit, and seventeen digits always tell two doubles apart. -/
def shortest : Nat × Int :=
  let leading : Int := (n.mid.log2 : Int) + n.exponent + 1
  n.shortestFrom 22 (leading * 30103 / 100000 + 1)

end Neighbourhood

/-- `digits * 10 ^ power` written out, without an exponent and without a fraction if it has none. -/
def positional (digits : Nat) (power : Int) : String :=
  let text := (Nat.toDigits 10 digits)
  if 0 ≤ power then String.ofList (text ++ List.replicate power.toNat '0')
  else
    let places := (-power).toNat
    let padded := List.replicate (places + 1 - text.length) '0' ++ text
    let whole := padded.length - places
    String.ofList (padded.take whole ++ '.' :: padded.drop whole)

/-- The text of a pattern: `NaN` whatever its sign and payload, `inf`, or the shortest decimal. -/
def Format.text (f : Format) (bits : Nat) : String :=
  let sign (negative : Bool) := if negative then "-" else ""
  match f.decode bits with
  | .nan => "NaN"
  | .infinite negative => sign negative ++ "inf"
  | .finite negative 0 _ => sign negative ++ "0"
  | .finite negative significand exponent =>
    let (digits, power) := (f.neighbourhood significand exponent).shortest
    sign negative ++ positional digits power

/-! ## Reading -/

/-- Why a text is no float. -/
inductive ReadError where
  | empty
  | invalid
  deriving Repr, DecidableEq

/-- The number that ASCII digits write, and how many there are. -/
def digitsValue (digits : List Char) : Nat :=
  digits.foldl (fun n c => n * 10 + (c.toNat - '0'.toNat)) 0

/-- An exponent: an optional sign and at least one digit. -/
def readExponent (text : List Char) : Option Int :=
  let (negative, digits) := match text with
    | '-' :: rest => (true, rest)
    | '+' :: rest => (false, rest)
    | _ => (false, text)
  if digits.isEmpty || !digits.all Char.isDigit then none
  else
    let n : Int := digitsValue digits
    some (if negative then -n else n)

/-- An unsigned decimal as `digits * 10 ^ power`: digits with an optional point among them, at least
one digit, and an optional exponent. -/
def readDecimal (text : List Char) : Option (Nat × Int) :=
  let whole := text.takeWhile Char.isDigit
  let rest := text.dropWhile Char.isDigit
  let (fraction, rest) := match rest with
    | '.' :: rest => (rest.takeWhile Char.isDigit, rest.dropWhile Char.isDigit)
    | _ => ([], rest)
  if whole.isEmpty && fraction.isEmpty then none
  else
    let digits := digitsValue (whole ++ fraction)
    let power : Int := -(fraction.length : Int)
    match rest with
    | [] => some (digits, power)
    | c :: rest =>
      if c = 'e' ∨ c = 'E' then (readExponent rest).map fun e => (digits, power + e) else none

/-- The pattern nearest to `± digits * 10 ^ power`. A power far outside the format's range decides
alone: the number is infinite or zero, whatever its digits. -/
def Format.ofDecimal (f : Format) (negative : Bool) (digits : Nat) (power : Int) : Nat :=
  let span : Int := twoTo f.exponentBits
  let size : Int := (digits.log2 : Int)
  if digits = 0 then f.signed negative 0
  else if span < power then f.signed negative f.infinity
  else if power < -(span + size) then f.signed negative 0
  else
    let (num, den) := scaleTen digits 1 (-power)
    f.round negative num den

/-- Reads a float: an optional sign, then `inf`, `infinity` or `nan` in any case, or a decimal. -/
def Format.read (f : Format) (text : String) : Except ReadError Nat :=
  match text.toList with
  | [] => .error .empty
  | c :: rest =>
    let negative := c = '-'
    let body := if c = '-' ∨ c = '+' then rest else c :: rest
    let word := String.ofList (body.map Char.toLower)
    if word = "inf" ∨ word = "infinity" then .ok (f.signed negative f.infinity)
    else if word = "nan" then .ok (f.signed negative f.quietNan)
    else match readDecimal body with
      | some (digits, power) => .ok (f.ofDecimal negative digits power)
      | none => .error .invalid

end WasmLens.Floating
