import WasmLens.Floating.Arithmetic

/-!
# Values and their types

The four numeric types that cross the boundary between a host and a module, and `void` for whatever
has no such type. Floats are kept as bit patterns, so the payload of a NaN survives every passage.
-/
namespace WasmLens

inductive ValueType where
  | void
  | i32
  | i64
  | f32
  | f64
  deriving Repr, DecidableEq, Inhabited

namespace ValueType

def name : ValueType → String
  | .void => "void"
  | .i32 => "i32"
  | .i64 => "i64"
  | .f32 => "f32"
  | .f64 => "f64"

def isVoid (t : ValueType) : Bool := t = .void

end ValueType

/-- A value of one of the numeric types by its bits, or `void`, the absence of one. -/
inductive Value where
  | void
  | i32 (bits : BitVec 32)
  | i64 (bits : BitVec 64)
  | f32 (bits : BitVec 32)
  | f64 (bits : BitVec 64)
  deriving Repr, DecidableEq, Inhabited

namespace Value

def type : Value → ValueType
  | .void => .void
  | .i32 _ => .i32
  | .i64 _ => .i64
  | .f32 _ => .f32
  | .f64 _ => .f64

/-- The raw bits, zero-extended to 64. -/
def toBits : Value → BitVec 64
  | .void => 0
  | .i32 b | .f32 b => b.setWidth 64
  | .i64 b | .f64 b => b

/-- The value of a type with the given bits; the narrow types keep the low half. -/
def ofBits (t : ValueType) (bits : BitVec 64) : Value :=
  match t with
  | .void => .void
  | .i32 => .i32 (bits.setWidth 32)
  | .i64 => .i64 bits
  | .f32 => .f32 (bits.setWidth 32)
  | .f64 => .f64 bits

def zero (t : ValueType) : Value := ofBits t 0

/-- An unsigned 64-bit number as an `i64`. -/
def ofUnsigned (n : BitVec 64) : Value := .i64 n

/-- The unsigned reading of an `i64`; no other type has one. -/
def toUnsigned? : Value → Option (BitVec 64)
  | .i64 b => some b
  | _ => none

/-- Whether two values are the same number of the same type. Floats compare as floats: a NaN equals
nothing, and the two zeros are equal. -/
def equal : Value → Value → Bool
  | .void, .void => true
  | .i32 a, .i32 b => a = b
  | .i64 a, .i64 b => a = b
  | .f32 a, .f32 b => compareFloats Floating.binary32 a.toNat b.toNat
  | .f64 a, .f64 b => compareFloats Floating.binary64 a.toNat b.toNat
  | _, _ => false
where
  compareFloats (f : Floating.Format) (a b : Nat) : Bool :=
    Floating.Datum.compare (f.decode a) (f.decode b) = some .eq

/-- A value does not have the type that was asked for. -/
structure WrongType where
  expected : ValueType
  deriving Repr, DecidableEq

def WrongType.message (e : WrongType) : String := "expected " ++ e.expected.name

/-- The value, if it has the type asked for. -/
def as? (t : ValueType) (v : Value) : Option Value := if v.type = t then some v else none

/-- The value, which must have the type asked for. -/
def expect (t : ValueType) (v : Value) : Except WrongType Value :=
  if v.type = t then .ok v else .error ⟨t⟩

theorem type_ofBits (t : ValueType) (bits : BitVec 64) : (ofBits t bits).type = t := by
  cases t <;> rfl

theorem ofBits_toBits (v : Value) : ofBits v.type v.toBits = v := by
  cases v <;> simp [ofBits, toBits, type]

end Value

end WasmLens
