import WasmLens.Number.Power

/-!
# Integers of bounded width, from decimal text

A text is an optional sign and decimal digits. The digits are taken one by one, so of two faults
the one further left is reported.
-/
namespace WasmLens.Number

/-- Why a text is no integer in range. -/
inductive IntegerError where
  | empty
  | invalidDigit
  | tooLarge
  | tooSmall
  deriving Repr, DecidableEq

namespace IntegerError

def message : IntegerError → String
  | .empty => "cannot parse integer from empty string"
  | .invalidDigit => "invalid digit found in string"
  | .tooLarge => "number too large to fit in target type"
  | .tooSmall => "number too small to fit in target type"

end IntegerError

/-- The magnitude that decimal digits write, on top of `start`, as long as it is at most `bound`. -/
def readMagnitude (bound : Nat) (beyond : IntegerError) :
    (start : Nat) → List Char → Except IntegerError Nat
  | n, [] => .ok n
  | n, c :: digits =>
    if c.isDigit then
      let next := n * 10 + (c.toNat - '0'.toNat)
      if bound < next then .error beyond else readMagnitude bound beyond next digits
    else .error .invalidDigit

/-- Digits after a sign; a sign alone is no number. -/
def readSignedDigits (bound : Nat) (beyond : IntegerError) : List Char → Except IntegerError Nat
  | [] => .error .invalidDigit
  | digits => readMagnitude bound beyond 0 digits

/-- An unsigned integer of `width` bits. It may carry a plus sign, and no minus sign. -/
def readUnsigned (width : Nat) (text : List Char) : Except IntegerError Nat :=
  match text with
  | [] => .error .empty
  | '+' :: digits => readSignedDigits (twoTo width - 1) .tooLarge digits
  | digits => readMagnitude (twoTo width - 1) .tooLarge 0 digits

/-- A signed integer of `width` bits. -/
def readSigned (width : Nat) (text : List Char) : Except IntegerError Int :=
  match text with
  | [] => .error .empty
  | '+' :: digits => (readSignedDigits (twoTo (width - 1) - 1) .tooLarge digits).map Int.ofNat
  | '-' :: digits => (readSignedDigits (twoTo (width - 1)) .tooSmall digits).map fun n => -(n : Int)
  | digits => (readMagnitude (twoTo (width - 1) - 1) .tooLarge 0 digits).map Int.ofNat

/-- A word of `width` bits, written as a signed or as an unsigned number. A text that is neither is
answered by what is wrong with it as an unsigned one. -/
def readWord (width : Nat) (text : List Char) : Except IntegerError (BitVec width) :=
  match readSigned width text with
  | .ok n => .ok (BitVec.ofInt width n)
  | .error _ => (readUnsigned width text).map (BitVec.ofNat width)

end WasmLens.Number
