/-!
# Faults

Why bytes are no valid module. The decoder and the validator report the first thing that is wrong.
-/
namespace WasmLens.Wasm

inductive Fault where
  | unexpectedEnd
  | badHeader
  | integerTooLong
  | invalidText
  /-- Bytes that no production of the format has, named by what was expected. -/
  | malformed (expected : String)
  /-- Bytes are left over where the contents should end. -/
  | trailing (what : String)
  /-- More of something than the implementation limits allow. -/
  | tooMany (what : String)
  | outOfOrder
  /-- An index with nothing behind it. -/
  | unknown (what : String) (index : Nat)
  | typeMismatch
  /-- A proposal that is not enabled. -/
  | disabled (what : String)
  | duplicateExport (name : String)
  | notConstant
  | outOfRange (what : String)
  | countMismatch (what : String)
  | immutable
  | undeclaredReference (func : Nat)
  deriving Repr, DecidableEq

namespace Fault

def message : Fault → String
  | .unexpectedEnd => "unexpected end-of-file"
  | .badHeader => "bad magic number or version"
  | .integerTooLong => "integer representation too long"
  | .invalidText => "malformed UTF-8 encoding"
  | .malformed expected => "malformed " ++ expected
  | .trailing what => "unexpected data at the end of the " ++ what
  | .tooMany what => what ++ " count is out of bounds"
  | .outOfOrder => "section out of order"
  | .unknown what index => "unknown " ++ what ++ " " ++ toString index
  | .typeMismatch => "type mismatch"
  | .disabled what => what ++ " support is not enabled"
  | .duplicateExport name => "duplicate export name `" ++ name ++ "` already defined"
  | .notConstant => "constant expression required"
  | .outOfRange what => what ++ " is out of range"
  | .countMismatch what => what ++ " have inconsistent lengths"
  | .immutable => "global is immutable"
  | .undeclaredReference func => "undeclared reference to function " ++ toString func

end Fault

end WasmLens.Wasm
