import WasmLens.Wasm.Proposed
import WasmLens.Wasm.Vector

/-!
# Operators

The operators of a function body as they stand in the binary, one after another. Blocks are opened
and closed by operators of their own.
-/
namespace WasmLens.Wasm

inductive Operator where
  | unreachable
  | nop
  | block (t : BlockType)
  | loop (t : BlockType)
  | ifThen (t : BlockType)
  | otherwise
  | close
  | br (label : Nat)
  | brIf (label : Nat)
  | brTable (labels : List Nat) (default : Nat)
  | ret
  | call (func : Nat)
  | callIndirect (type table : Nat)
  | drop
  | select
  | selectTyped (t : ValType)
  | localGet (index : Nat)
  | localSet (index : Nat)
  | localTee (index : Nat)
  | globalGet (index : Nat)
  | globalSet (index : Nat)
  | tableGet (table : Nat)
  | tableSet (table : Nat)
  | tableSize (table : Nat)
  | tableGrow (table : Nat)
  | tableFill (table : Nat)
  | tableCopy (target source : Nat)
  | tableInit (segment table : Nat)
  | elemDrop (segment : Nat)
  | load (access : Access) (arg : MemArg)
  | store (access : Access) (arg : MemArg)
  | memorySize (memory : Nat)
  | memoryGrow (memory : Nat)
  | memoryFill (memory : Nat)
  | memoryCopy (target source : Nat)
  | memoryInit (segment memory : Nat)
  | dataDrop (segment : Nat)
  | const (c : Const)
  | refNull (heap : HeapType)
  | refIsNull
  | refFunc (func : Nat)
  | numeric (op : Numeric)
  | vector (op : VectorOp)
  | vectorLoad (form : VectorLoad) (arg : MemArg)
  /-- Loads one lane of a vector and keeps the others. -/
  | laneLoad (lane : Lane) (index : Nat) (arg : MemArg)
  | laneStore (lane : Lane) (index : Nat) (arg : MemArg)
  | proposed (op : Proposed)
  deriving Repr, DecidableEq

end WasmLens.Wasm
