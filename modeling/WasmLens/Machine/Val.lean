import WasmLens.Value.Basic
import WasmLens.Wasm.Operator

/-!
# Values inside a module

What lies on the stack of a running function: every value of the binary format, of which a host sees
the four numeric types. `Value.toVal?` and `Val.toValue` are the two directions of that boundary.
-/
namespace WasmLens.Machine

inductive Val where
  | i32 (bits : BitVec 32)
  | i64 (bits : BitVec 64)
  | f32 (bits : BitVec 32)
  | f64 (bits : BitVec 64)
  | v128 (bits : BitVec 128)
  /-- A reference to a function by its index, or null. All other references are null. -/
  | ref (target : Option Nat)
  deriving Repr, DecidableEq, Inhabited

namespace Val

/-- The value that a local, a global or a result of this type starts out with. -/
def zero : Wasm.ValType → Val
  | .i32 => .i32 0
  | .i64 => .i64 0
  | .f32 => .f32 0
  | .f64 => .f64 0
  | .v128 => .v128 0
  | .ref _ => .ref none

/-- The value that the engine gives a new global. A reference that cannot be null has none. -/
def default? : Wasm.ValType → Option Val
  | .ref t => if t.nullable then some (.ref none) else none
  | t => some (zero t)

def ofConst : Wasm.Const → Val
  | .i32 b => .i32 b
  | .i64 b => .i64 b
  | .f32 b => .f32 b
  | .f64 b => .f64 b
  | .v128 b => .v128 b

/-- Whether a value may stand where a type is declared. -/
def hasType : Val → Wasm.ValType → Bool
  | .i32 _, .i32 | .i64 _, .i64 | .f32 _, .f32 | .f64 _, .f64 | .v128 _, .v128 | .ref _, .ref _ => true
  | _, _ => false

theorem hasType_zero (t : Wasm.ValType) : (zero t).hasType t := by
  cases t <;> rfl

def ofBool (b : Bool) : Val := .i32 (if b then 1 else 0)

/-- The bits of a number or a vector. -/
def number? : Val → Option Nat
  | .i32 b | .f32 b => some b.toNat
  | .i64 b | .f64 b => some b.toNat
  | .v128 b => some b.toNat
  | .ref _ => none

/-- An address, an index or a length, read without sign. -/
def index? : Val → Option Nat
  | .i32 b => some b.toNat
  | .i64 b => some b.toNat
  | _ => none

/-- A size as a value of the index type of its memory or table. -/
def ofIndex (is64 : Bool) (n : Nat) : Val :=
  if is64 then .i64 (BitVec.ofNat 64 n) else .i32 (BitVec.ofNat 32 n)

/-- What a refused growth answers, all bits set. -/
def refused (is64 : Bool) : Val := if is64 then .i64 (-1) else .i32 (-1)

end Val

end WasmLens.Machine

namespace WasmLens

open Machine

/-- The type of a value inside a module; `void` is none. -/
def ValueType.toValType? : ValueType → Option Wasm.ValType
  | .void => none
  | .i32 => some .i32
  | .i64 => some .i64
  | .f32 => some .f32
  | .f64 => some .f64

/-- A host value inside a module; `void` is none. -/
def Value.toVal? : Value → Option Val
  | .void => none
  | .i32 b => some (.i32 b)
  | .i64 b => some (.i64 b)
  | .f32 b => some (.f32 b)
  | .f64 b => some (.f64 b)

/-- What a host sees of a value: `void` for everything but a number. -/
def Machine.Val.toValue : Val → Value
  | .i32 b => .i32 b
  | .i64 b => .i64 b
  | .f32 b => .f32 b
  | .f64 b => .f64 b
  | .v128 _ | .ref _ => .void

theorem Value.toValue_of_toVal? {v : Value} {x : Val} (h : v.toVal? = some x) : x.toValue = v := by
  cases v <;> simp_all [Value.toVal?, Machine.Val.toValue] <;> subst h <;> rfl

end WasmLens
