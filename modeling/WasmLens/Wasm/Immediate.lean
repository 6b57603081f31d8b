import WasmLens.Wasm.Types

/-!
# Immediates

What stands behind the opcode of an operator, where that is more than indices.
-/
namespace WasmLens.Wasm

/-- The type of a block: nothing, one result, or a function type of the module. -/
inductive BlockType where
  | empty
  | value (t : ValType)
  | func (index : Nat)
  deriving Repr, DecidableEq

/-- Where and how a memory is accessed. -/
structure MemArg where
  alignLog2 : Nat
  offset : Nat
  memory : Nat
  deriving Repr, DecidableEq

/-- A value loaded from or stored to some bytes of a memory. A load of fewer bytes than the type has
extends them, by sign or by zeros. -/
structure Access where
  type : ValType
  bytes : Nat
  signed : Bool
  deriving Repr, DecidableEq

namespace Access

/-- The loads in the order of their opcodes, the first being `0x28`. -/
def loads : List Access :=
  [⟨.i32, 4, false⟩, ⟨.i64, 8, false⟩, ⟨.f32, 4, false⟩, ⟨.f64, 8, false⟩,
    ⟨.i32, 1, true⟩, ⟨.i32, 1, false⟩, ⟨.i32, 2, true⟩, ⟨.i32, 2, false⟩,
    ⟨.i64, 1, true⟩, ⟨.i64, 1, false⟩, ⟨.i64, 2, true⟩, ⟨.i64, 2, false⟩, ⟨.i64, 4, true⟩,
    ⟨.i64, 4, false⟩]

/-- The stores in the order of their opcodes, the first being `0x36`. -/
def stores : List Access :=
  [⟨.i32, 4, false⟩, ⟨.i64, 8, false⟩, ⟨.f32, 4, false⟩, ⟨.f64, 8, false⟩,
    ⟨.i32, 1, false⟩, ⟨.i32, 2, false⟩, ⟨.i64, 1, false⟩, ⟨.i64, 2, false⟩, ⟨.i64, 4, false⟩]

/-- A vector as a whole, which has opcodes of its own. -/
def vector : Access := ⟨.v128, 16, false⟩

end Access

/-- The greatest alignment that an access of some bytes may claim. -/
def naturalAlignLog2 (bytes : Nat) : Nat := bytes.log2

/-- A constant by its bits. -/
inductive Const where
  | i32 (bits : BitVec 32)
  | i64 (bits : BitVec 64)
  | f32 (bits : BitVec 32)
  | f64 (bits : BitVec 64)
  | v128 (bits : BitVec 128)
  deriving Repr, DecidableEq

def Const.type : Const → ValType
  | .i32 _ => .i32
  | .i64 _ => .i64
  | .f32 _ => .f32
  | .f64 _ => .f64
  | .v128 _ => .v128

end WasmLens.Wasm
