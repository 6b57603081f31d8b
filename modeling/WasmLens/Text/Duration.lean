import WasmLens.Number.Power

/-!
# Durations

A span of time as text, in the largest unit of which it is at least one, with as many decimal places
as it needs.
-/
namespace WasmLens.Text

/-- The digits of a fraction of `places` decimal places, without the zeros at their end. -/
def fractionDigits (places n : Nat) : List Char :=
  let digits := (Nat.toDigits 10 n)
  let padded := List.replicate (places - digits.length) '0' ++ digits
  (padded.reverse.dropWhile (· == '0')).reverse

/-- `n` over `10 ^ places`, as a decimal. -/
def decimal (n places : Nat) : String :=
  let whole := n / tenTo places
  match fractionDigits places (n % tenTo places) with
  | [] => toString whole
  | digits => toString whole ++ "." ++ String.ofList digits

/-- A number of nanoseconds. -/
def duration (nanos : Nat) : String :=
  if tenTo 9 ≤ nanos then decimal nanos 9 ++ "s"
  else if tenTo 6 ≤ nanos then decimal nanos 6 ++ "ms"
  else if tenTo 3 ≤ nanos then decimal nanos 3 ++ "µs"
  else toString nanos ++ "ns"

end WasmLens.Text
