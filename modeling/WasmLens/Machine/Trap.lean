/-!
# Traps

Why a call ends without results.
-/
namespace WasmLens.Machine

inductive Trap where
  | unreachable
  | divisionByZero
  | integerOverflow
  | invalidConversion
  | memoryOutOfBounds
  | tableOutOfBounds
  /-- An indirect call found null. -/
  | uninitializedElement
  /-- An indirect call found a function of another type. -/
  | signatureMismatch
  | stackExhausted
  /-- An operand or an index is not what the operator takes. Validated code never gets here. -/
  | illTyped
  deriving Repr, DecidableEq

namespace Trap

def text : Trap → String
  | .unreachable => "wasm `unreachable` instruction executed"
  | .divisionByZero => "integer divide by zero"
  | .integerOverflow => "integer overflow"
  | .invalidConversion => "invalid conversion to integer"
  | .memoryOutOfBounds => "out of bounds memory access"
  | .tableOutOfBounds => "undefined element: out of bounds table access"
  | .uninitializedElement => "uninitialized element"
  | .signatureMismatch => "indirect call type mismatch"
  | .stackExhausted => "call stack exhausted"
  | .illTyped => "operand of the wrong type"

def message (t : Trap) : String := "wasm trap: " ++ t.text

end Trap

end WasmLens.Machine
