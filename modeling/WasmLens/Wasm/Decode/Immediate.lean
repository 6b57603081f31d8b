import WasmLens.Features
import WasmLens.Wasm.Decode.Types
import WasmLens.Wasm.Immediate

/-!
# Reading immediates

Without the proposal for several memories, or the one for reference types, the immediates that it added are a single
zero byte.
-/
namespace WasmLens.Wasm.Decode

def blockType : Reader BlockType := do
  let b ← Reader.peek
  if b = 0x40 then
    let _ ← Reader.byte
    return .empty
  else if startsValType b then return .value (← valType)
  else
    let index ← Reader.signed 33
    if 0 ≤ index ∧ index < twoTo 32 then return .func index.toNat
    else Reader.fail (.malformed "block type")

/-- A memory access: the alignment, the memory where several are allowed, and the offset. -/
def memArg (f : Features) : Reader MemArg := do
  let flags ← Reader.u32
  let named := f.multiMemory && flags.testBit 6
  let memory ← if named then Reader.u32 else pure 0
  let alignLog2 := if named then flags - 64 else flags
  if (if f.multiMemory then 64 else 32) ≤ alignLog2 then Reader.fail (.malformed "alignment")
  let offset ← if f.memory64 then Reader.u64 else Reader.u32
  return ⟨alignLog2, offset, memory⟩

def zeroByte : Reader Nat := do
  if (← Reader.byte) = 0 then return 0 else Reader.fail (.malformed "zero byte")

/-- The memory of an operator that had only one to work on at first. -/
def memoryIndex (f : Features) : Reader Nat := if f.multiMemory then Reader.u32 else zeroByte

/-- The table of an indirect call. -/
def calledTable (f : Features) : Reader Nat := if f.referenceTypes then Reader.u32 else zeroByte

/-- A number of `width` bits from its bytes, the lowest first. -/
def littleEndian (width : Nat) : Reader (BitVec width) := do
  let bytes ← Reader.take (width / 8)
  return BitVec.ofNat width (bytes.foldr (fun b n => b.toNat + 256 * n) 0)

end WasmLens.Wasm.Decode
