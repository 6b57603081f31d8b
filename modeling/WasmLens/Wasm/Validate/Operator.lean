import WasmLens.Wasm.Operator
import WasmLens.Wasm.Validate.Stack
import WasmLens.Wasm.Validate.Types

/-!
# Typing of operators

What every operator takes off the type stack and leaves on it.
-/
namespace WasmLens.Wasm

namespace Check

def lift {α : Type} (x : Context → Except Fault α) : Check α := do
  match x (← get).context with
  | .ok a => return a
  | .error f => fail f

def need (feature : Features → Bool) (what : String) : Check Unit :=
  lift fun c => require (feature c.features) what

/-- Takes a reference of any type. What is not known is some reference. -/
def popRef : Check Operand := do
  match ← popAny with
  | .unknown => return .someRef none
  | .known (.ref t) => return .known (.ref t)
  | .someRef heap => return .someRef heap
  | .known _ => fail .typeMismatch

/-- Takes some operands and leaves others. -/
def apply (params results : List ValType) : Check Unit := do
  popAll params
  pushAll results

/-! ## Locals -/

def localAt (index : Nat) : Check ValType := do
  match (← get).locals[index]? with
  | some t => return t
  | none => fail (.unknown "local" index)

def setLocal (index : Nat) : Check Unit :=
  modify fun k => { k with unset := k.unset.filter (· ≠ index) }

/-! ## Memory and tables -/

/-- The address type of an access to some bytes of a memory. It may not claim more than its natural alignment,
nor an offset that its addresses cannot have. -/
def address (bytes : Nat) (arg : MemArg) : Check ValType := do
  let memory ← lift (·.memoryAt arg.memory)
  if naturalAlignLog2 bytes < arg.alignLog2 then fail (.outOfRange "alignment")
  if !memory.is64 && twoTo 32 ≤ arg.offset then fail (.outOfRange "offset")
  return indexType memory.is64

def memoryIndexType (memory : Nat) : Check ValType := do
  return indexType (← lift (·.memoryAt memory)).is64

/-- The type of a length that two index types share: the narrower one. -/
def lengthType (a b : ValType) : ValType := if a = .i64 ∧ b = .i64 then .i64 else .i32

def dataSegment (segment : Nat) : Check Unit := lift (·.checkDataSegment segment)

/-! ## Branches -/

/-- Whether the operands at hand can be what a label carries; they stay where they are. -/
def peekAll (ts : List ValType) : Check Unit := do
  let k ← get
  popAll ts
  set k

def brTable (labels : List Nat) (default : Nat) : Check Unit := do
  pop .i32
  let types ← label default
  for l in labels do
    let ts ← label l
    if ts.length ≠ types.length then fail .typeMismatch
    peekAll ts
  popAll types
  setUnreachable

/-- Whether a choice between two operands of this type needs no annotation. -/
def isPlain : Operand → Bool
  | .someRef _ | .known (.ref _) => false
  | _ => true

def select : Check Unit := do
  pop .i32
  let a ← popAny
  let b ← popAny
  if !isPlain a || !isPlain b then fail .typeMismatch
  match a, b with
  | .unknown, t | t, .unknown => push t
  | s, t => if s = t then push s else fail .typeMismatch

/-! ## Operators by what they work on -/

/-- Operators on locals and globals. -/
def onVariables? : Operator → Option (Check Unit)
  | .localGet i => some do
    let t ← localAt i
    if (← get).unset.contains i then fail (.outOfRange "uninitialized local")
    push (.known t)
  | .localSet i => some do
    pop (← localAt i)
    setLocal i
  | .localTee i => some do
    let t ← localAt i
    pop t
    setLocal i
    push (.known t)
  | .globalGet i => some do push (.known (← lift (·.globalAt i)).content)
  | .globalSet i => some do
    let g ← lift (·.globalAt i)
    if !g.isMutable then fail .immutable
    pop g.content
  | _ => none

/-- Operators on tables. -/
def onTables? : Operator → Option (Check Unit)
  | .tableGet i => some do
    need (·.referenceTypes) "reference types"
    let t ← lift (·.tableAt i)
    apply [indexType t.is64] [.ref t.element]
  | .tableSet i => some do
    need (·.referenceTypes) "reference types"
    let t ← lift (·.tableAt i)
    apply [indexType t.is64, .ref t.element] []
  | .tableSize i => some do
    need (·.referenceTypes) "reference types"
    let t ← lift (·.tableAt i)
    apply [] [indexType t.is64]
  | .tableGrow i => some do
    need (·.referenceTypes) "reference types"
    let t ← lift (·.tableAt i)
    apply [.ref t.element, indexType t.is64] [indexType t.is64]
  | .tableFill i => some do
    need (·.referenceTypes) "reference types"
    let t ← lift (·.tableAt i)
    apply [indexType t.is64, .ref t.element, indexType t.is64] []
  | .tableCopy target source => some do
    need (·.bulkMemory) "bulk memory"
    let t ← lift (·.tableAt target)
    let s ← lift (·.tableAt source)
    if !(← get).context.refBelow s.element t.element then fail .typeMismatch
    let ti := indexType t.is64
    let si := indexType s.is64
    apply [ti, si, lengthType ti si] []
  | .tableInit segment table => some do
    need (·.bulkMemory) "bulk memory"
    let t ← lift (·.tableAt table)
    let e ← lift (·.elementAt segment)
    if !(← get).context.refBelow e t.element then fail .typeMismatch
    apply [indexType t.is64, .i32, .i32] []
  | .elemDrop segment => some do
    need (·.bulkMemory) "bulk memory"
    let _ ← lift (·.elementAt segment)
  | _ => none

/-- Operators on memories. -/
def onMemories? : Operator → Option (Check Unit)
  | .load access arg => some do
    if access.type = .v128 then need (·.simd) "SIMD"
    apply [← address access.bytes arg] [access.type]
  | .store access arg => some do
    if access.type = .v128 then need (·.simd) "SIMD"
    apply [← address access.bytes arg, access.type] []
  | .memorySize m => some do apply [] [← memoryIndexType m]
  | .memoryGrow m => some do
    let t ← memoryIndexType m
    apply [t] [t]
  | .memoryFill m => some do
    need (·.bulkMemory) "bulk memory"
    let t ← memoryIndexType m
    apply [t, .i32, t] []
  | .memoryCopy target source => some do
    need (·.bulkMemory) "bulk memory"
    let t ← memoryIndexType target
    let s ← memoryIndexType source
    apply [t, s, lengthType t s] []
  | .memoryInit segment m => some do
    need (·.bulkMemory) "bulk memory"
    let t ← memoryIndexType m
    dataSegment segment
    apply [t, .i32, .i32] []
  | .dataDrop segment => some do
    need (·.bulkMemory) "bulk memory"
    dataSegment segment
  | _ => none

/-- Operators on vectors, constants excepted. The lanes that they name have to be there. -/
def onVectors? : Operator → Option (Check Unit)
  | .vector op => some do
    need (·.simd) "SIMD"
    if !op.lanesExist then fail (.outOfRange "lane")
    apply op.params [op.result]
  | .vectorLoad form arg => some do
    need (·.simd) "SIMD"
    apply [← address form.bytes arg] [.v128]
  | .laneLoad lane index arg => some do
    need (·.simd) "SIMD"
    if lane.count ≤ index then fail (.outOfRange "lane")
    apply [← address lane.bytes arg, .v128] [.v128]
  | .laneStore lane index arg => some do
    need (·.simd) "SIMD"
    if lane.count ≤ index then fail (.outOfRange "lane")
    apply [← address lane.bytes arg, .v128] []
  | _ => none

/-- Operators on values alone. -/
def onValues? : Operator → Option (Check Unit)
  | .nop => some (return)
  | .drop => some do let _ ← popAny
  | .select => some select
  | .selectTyped t => some do
    need (·.referenceTypes) "reference types"
    lift (·.checkValue t)
    apply [t, t, .i32] [t]
  | .const c => some do
    if c.type = .v128 then need (·.simd) "SIMD"
    push (.known c.type)
  | .refNull heap => some do
    lift (·.checkRef ⟨true, heap⟩)
    push (.known (.ref ⟨true, heap⟩))
  | .refIsNull => some do
    need (·.referenceTypes) "reference types"
    let _ ← popRef
    push (.known .i32)
  | .refFunc func => some do
    need (·.referenceTypes) "reference types"
    let type ← lift fun c => Context.lookUp c.functions "function" func
    if !(← get).context.referable.contains func then fail (.undeclaredReference func)
    push (.known (.ref ⟨false, .concrete type⟩))
  | .numeric op => some (apply op.params [op.result])
  | _ => none

/-- Operators that open, close or leave blocks, and calls. -/
def control : Operator → Check Unit
  | .unreachable => setUnreachable
  | .block t => do
    let type ← lift (·.blockTypeAt t)
    popAll type.params
    openBlock .block type
  | .loop t => do
    let type ← lift (·.blockTypeAt t)
    popAll type.params
    openBlock .loop type
  | .ifThen t => do
    let type ← lift (·.blockTypeAt t)
    pop .i32
    popAll type.params
    openBlock .ifThen type
  | .otherwise => do
    let b ← closeBlock
    if b.kind ≠ .ifThen then fail .typeMismatch
    openBlock .otherwise b.type
  | .close => do
    let b ← closeBlock
    if b.kind = .ifThen then
      openBlock .otherwise b.type
      let _ ← closeBlock
    if b.kind ≠ .body then pushAll b.type.results
  | .br l => do
    popAll (← label l)
    setUnreachable
  | .brIf l => do
    pop .i32
    let types ← label l
    apply types types
  | .brTable labels default => brTable labels default
  | .ret => do
    match (← get).blocks.getLast? with
    | some b =>
      popAll b.type.results
      setUnreachable
    | none => fail .typeMismatch
  | .call func => do
    let type ← lift (·.typeOfFunction func)
    apply type.params type.results
  | .callIndirect type table => do
    let t ← lift (·.tableAt table)
    if !(← get).context.refBelow t.element RefType.func then fail .typeMismatch
    pop (indexType t.is64)
    let type ← lift (·.funcTypeAt type)
    apply type.params type.results
  | _ => fail (.malformed "operator")

/-- Checks the type of a block. -/
def blockType (t : BlockType) : Check Unit := do
  match t with
  | .empty => return
  | .value v => lift (·.checkValue v)
  | .func _ =>
    need (·.multiValue) "multi-value"
    let type ← lift (·.blockTypeAt t)
    lift (·.checkFuncType type)

end Check

end WasmLens.Wasm
