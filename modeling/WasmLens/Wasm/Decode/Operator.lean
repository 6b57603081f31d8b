import WasmLens.Wasm.Content
import WasmLens.Wasm.Decode.Proposed
import WasmLens.Wasm.Decode.Vector

/-!
# Reading operators

An operator is an opcode and its immediates. Most opcodes are one byte; four prefix bytes stand before numbers.
-/
namespace WasmLens.Wasm.Decode

/-- The most labels a branch table may have. -/
def maxBranchTable : Nat := 7654321

/-- The operators behind the prefix byte `0xfc`. -/
def miscellaneous (opcode : Nat) : Reader Operator :=
  match Numeric.saturating[opcode]?, opcode with
  | some op, _ => return .numeric op
  | none, 8 => return .memoryInit (← Reader.u32) (← Reader.u32)
  | none, 9 => return .dataDrop (← Reader.u32)
  | none, 10 => return .memoryCopy (← Reader.u32) (← Reader.u32)
  | none, 11 => return .memoryFill (← Reader.u32)
  | none, 12 => return .tableInit (← Reader.u32) (← Reader.u32)
  | none, 13 => return .elemDrop (← Reader.u32)
  | none, 14 => return .tableCopy (← Reader.u32) (← Reader.u32)
  | none, 15 => return .tableGrow (← Reader.u32)
  | none, 16 => return .tableSize (← Reader.u32)
  | none, 17 => return .tableFill (← Reader.u32)
  | none, _ => Reader.fail (.malformed "opcode")

def operator (f : Features) : Reader Operator := do
  let opcode := (← Reader.byte).toNat
  match opcode with
  | 0x00 => return .unreachable
  | 0x01 => return .nop
  | 0x02 => return .block (← blockType)
  | 0x03 => return .loop (← blockType)
  | 0x04 => return .ifThen (← blockType)
  | 0x05 => return .otherwise
  | 0x0b => return .close
  | 0x0c => return .br (← Reader.u32)
  | 0x0d => return .brIf (← Reader.u32)
  | 0x0e =>
    let labels ← Reader.vector Reader.u32 (← Reader.count maxBranchTable "branch table")
    return .brTable labels (← Reader.u32)
  | 0x0f => return .ret
  | 0x10 => return .call (← Reader.u32)
  | 0x11 =>
    let type ← Reader.u32
    return .callIndirect type (← calledTable f)
  | 0x1a => return .drop
  | 0x1b => return .select
  | 0x1c =>
    if (← Reader.u32) = 1 then return .selectTyped (← valType)
    else Reader.fail (.malformed "result arity")
  | 0x20 => return .localGet (← Reader.u32)
  | 0x21 => return .localSet (← Reader.u32)
  | 0x22 => return .localTee (← Reader.u32)
  | 0x23 => return .globalGet (← Reader.u32)
  | 0x24 => return .globalSet (← Reader.u32)
  | 0x25 => return .tableGet (← Reader.u32)
  | 0x26 => return .tableSet (← Reader.u32)
  | 0x3f => return .memorySize (← memoryIndex f)
  | 0x40 => return .memoryGrow (← memoryIndex f)
  | 0x41 => return .const (.i32 (BitVec.ofInt 32 (← Reader.signed 32)))
  | 0x42 => return .const (.i64 (BitVec.ofInt 64 (← Reader.signed 64)))
  | 0x43 => return .const (.f32 (← littleEndian 32))
  | 0x44 => return .const (.f64 (← littleEndian 64))
  | 0xd0 => return .refNull (← heapType)
  | 0xd1 => return .refIsNull
  | 0xd2 => return .refFunc (← Reader.u32)
  | 0xfc => miscellaneous (← Reader.u32)
  | 0xfd => vectorOperator f (← Reader.u32)
  | _ =>
    if 0x28 ≤ opcode ∧ opcode < 0x36 then
      match Access.loads[opcode - 0x28]? with
      | some access => return .load access (← memArg f)
      | none => Reader.fail (.malformed "opcode")
    else if 0x36 ≤ opcode ∧ opcode < 0x3f then
      match Access.stores[opcode - 0x36]? with
      | some access => return .store access (← memArg f)
      | none => Reader.fail (.malformed "opcode")
    else match Numeric.ofOpcode? opcode with
      | some op => return .numeric op
      | none => return .proposed (← proposedOperator f opcode)

/-- The operators up to the first one that closes something, which is left out. -/
def constExpr (f : Features) (bytes : List UInt8) : Except Fault (ConstExpr × List UInt8) :=
  match operator f bytes with
  | .error fault => .error fault
  | .ok (.close, rest) => .ok ([], rest)
  | .ok (op, rest) =>
    if rest.length < bytes.length then
      match constExpr f rest with
      | .ok (ops, rest) => .ok (op :: ops, rest)
      | .error fault => .error fault
    else .error .unexpectedEnd
termination_by bytes.length

end WasmLens.Wasm.Decode
