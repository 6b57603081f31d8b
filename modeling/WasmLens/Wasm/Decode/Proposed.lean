import WasmLens.Wasm.Decode.Immediate
import WasmLens.Wasm.Vector
import WasmLens.Wasm.Proposed

/-!
# Reading operators of further proposals

The operators on garbage-collected values stand behind the prefix byte `0xfb` and the ones on shared memories behind
`0xfe`. All others are opcodes of one byte.
-/
namespace WasmLens.Wasm.Decode

/-- The most handlers that a block may have. -/
def maxCatches : Nat := 10000

def handler : Reader Catch := do
  let form := (← Reader.byte).toNat
  if 4 ≤ form then Reader.fail (.malformed "catch")
  let withRef := form % 2 == 1
  if form < 2 then
    let tag ← Reader.u32
    return .one tag (← Reader.u32) withRef
  else return .all (← Reader.u32) withRef

/-- An operator on a type by its index. -/
def onType (op : Nat → Proposed) : Reader Proposed := do return op (← Reader.u32)

/-- An operator on a type and on something else by their indices. -/
def onTypeAnd (op : Nat → Nat → Proposed) : Reader Proposed := do
  let type ← Reader.u32
  return op type (← Reader.u32)

/-- An operator on a reference type, which the opcode says may be null or not. -/
def onRef (op : RefType → Proposed) (nullable : Bool) : Reader Proposed := do return op ⟨nullable, ← heapType⟩

/-- A branch that depends on whether a reference of one type is of another one. -/
def castBranch (op : Nat → RefType → RefType → Proposed) : Reader Proposed := do
  let flags := (← Reader.byte).toNat
  if 4 ≤ flags then Reader.fail (.malformed "cast flags")
  let label ← Reader.u32
  let source ← heapType
  return op label ⟨flags.testBit 0, source⟩ ⟨flags.testBit 1, ← heapType⟩

/-- The operators behind the prefix byte `0xfb`, in the order of the numbers behind it. -/
def collected : List (Reader Proposed) :=
  [onType .structNew, onType .structNewDefault,
    onTypeAnd (.structGet none), onTypeAnd (.structGet (some true)), onTypeAnd (.structGet (some false)),
    onTypeAnd .structSet,
    onType .arrayNew, onType .arrayNewDefault,
    onTypeAnd .arrayNewFixed, onTypeAnd .arrayNewData, onTypeAnd .arrayNewElem,
    onType (.arrayGet none), onType (.arrayGet (some true)), onType (.arrayGet (some false)),
    onType .arraySet, return .arrayLen, onType .arrayFill,
    onTypeAnd .arrayCopy, onTypeAnd .arrayInitData, onTypeAnd .arrayInitElem,
    onRef .refTest false, onRef .refTest true, onRef .refCast false, onRef .refCast true,
    castBranch .brOnCast, castBranch .brOnCastFail,
    return .anyConvertExtern, return .externConvertAny, return .refI31, return .i31Get true, return .i31Get false]

/-- An operator that accesses a shared memory. -/
def atomic (f : Features) (op : AtomicOp) (access : Access) : Reader Proposed := do
  return .atomic op access (← memArg f)

def fence : Reader Proposed := do
  let _ ← zeroByte
  return .atomicFence

/-- The operators behind the prefix byte `0xfe`, in blocks that begin at a number. -/
def atomicBlocks (f : Features) : List (Nat × List (Reader Proposed)) :=
  [(0, [atomic f .notify ⟨.i32, 4, false⟩, atomic f .wait ⟨.i32, 4, false⟩, atomic f .wait ⟨.i64, 8, false⟩,
      fence]),
    (0x10, AtomicOp.families.flatMap fun op => Access.atomics.map (atomic f op))]

/-- The operators of further proposals, by the byte that they begin with. -/
def proposedOperator (f : Features) (opcode : Nat) : Reader Proposed := do
  match opcode with
  | 0x08 => return .throw (← Reader.u32)
  | 0x0a => return .throwRef
  | 0x12 => return .returnCall (← Reader.u32)
  | 0x13 =>
    let type ← Reader.u32
    return .returnCallIndirect type (← calledTable f)
  | 0x14 => onType .callRef
  | 0x15 => onType .returnCallRef
  | 0x1f =>
    let t ← blockType
    return .tryTable t (← Reader.vector handler (← Reader.count maxCatches "catch"))
  | 0xd3 => return .refEq
  | 0xd4 => return .refAsNonNull
  | 0xd5 => return .brOnNull (← Reader.u32)
  | 0xd6 => return .brOnNonNull (← Reader.u32)
  | 0xfb => (collected[← Reader.u32]?).getD (Reader.fail (.malformed "opcode"))
  | 0xfe => (atOpcode? (atomicBlocks f) (← Reader.u32)).getD (Reader.fail (.malformed "opcode"))
  | _ => Reader.fail (.malformed "opcode")

end WasmLens.Wasm.Decode
