import WasmLens.Floating.Decimal
import WasmLens.Number.Integer
import WasmLens.Value.Basic

/-!
# Values as text

`Value.text` writes a value as a number, a colon and the name of its type. `Value.read` reads the
number part back at a given type. An integer may be written signed or unsigned.
-/
namespace WasmLens

namespace Value

/-- The number part of a value's text: integers signed, floats by their shortest decimal. -/
def number : Value → String
  | .void => "void"
  | .i32 b => toString b.toInt
  | .i64 b => toString b.toInt
  | .f32 b => Floating.binary32.text b.toNat
  | .f64 b => Floating.binary64.text b.toNat

def text : Value → String
  | .void => "void"
  | v => v.number ++ ":" ++ v.type.name

/-- Why a text is no value of a type. -/
inductive ReadError where
  | integer (cause : Number.IntegerError)
  | float (cause : Floating.ReadError)
  /-- Nothing reads as `void`. -/
  | void
  deriving Repr, DecidableEq

def ReadError.message : ReadError → String
  | .integer cause => cause.message
  | .float .empty => "cannot parse float from empty string"
  | .float .invalid => "invalid float literal"
  | .void => "cannot pass a value of type void"

/-- Reads a number at a type. -/
def read (t : ValueType) (raw : String) : Except ReadError Value :=
  match t with
  | .void => .error .void
  | .i32 => word .i32 (Number.readWord 32 raw.toList)
  | .i64 => word .i64 (Number.readWord 64 raw.toList)
  | .f32 => float (fun n => .f32 (BitVec.ofNat 32 n)) (Floating.binary32.read raw)
  | .f64 => float (fun n => .f64 (BitVec.ofNat 64 n)) (Floating.binary64.read raw)
where
  word {w : Nat} (make : BitVec w → Value) :
      Except Number.IntegerError (BitVec w) → Except ReadError Value
    | .ok b => .ok (make b)
    | .error cause => .error (.integer cause)
  float (make : Nat → Value) : Except Floating.ReadError Nat → Except ReadError Value
    | .ok n => .ok (make n)
    | .error cause => .error (.float cause)

end Value

end WasmLens
