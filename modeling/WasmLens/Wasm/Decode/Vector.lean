import WasmLens.Wasm.Decode.Immediate
import WasmLens.Wasm.Operator

/-!
# Reading vector operators

The operators behind the prefix byte `0xfd`. Most have no immediates; the others access a memory, name lanes, or hold a
vector.
-/
namespace WasmLens.Wasm.Decode

def laneIndex : Reader Nat := do return (← Reader.byte).toNat

def vectorLoad (f : Features) (form : VectorLoad) : Reader Operator := do return .vectorLoad form (← memArg f)

def laneLoad (f : Features) (lane : Lane) : Reader Operator := do
  let arg ← memArg f
  return .laneLoad lane (← laneIndex) arg

def laneStore (f : Features) (lane : Lane) : Reader Operator := do
  let arg ← memArg f
  return .laneStore lane (← laneIndex) arg

/-- The operators with immediates, and the ones that belong to a further proposal, in blocks that begin at an opcode. -/
def vectorBlocks (f : Features) : List (Nat × List (Reader Operator)) :=
  [(0, [do return .load .vector (← memArg f)] ++ VectorLoad.all.map (vectorLoad f)
      ++ [do return .store .vector (← memArg f), do return .const (.v128 (← littleEndian 128)),
        do return .vector (.binary (.shuffle (← Reader.vector laneIndex 16)))]),
    (21, VectorOp.onLane.map fun op => do return .vector (op (← laneIndex))),
    (84, Lane.all.map (laneLoad f) ++ Lane.all.map (laneStore f) ++
      [vectorLoad f (.zero .w32), vectorLoad f (.zero .w64)]),
    (0x100, Proposed.relaxedParams.map fun params => return .proposed (.relaxedVector params))]

def vectorOperator (f : Features) (opcode : Nat) : Reader Operator :=
  match VectorOp.ofOpcode? opcode with
  | some op => return .vector op
  | none => (atOpcode? (vectorBlocks f) opcode).getD (Reader.fail (.malformed "vector opcode"))

end WasmLens.Wasm.Decode
