import WasmLens.Wasm.Decode.Types
import WasmLens.Wasm.Validate.Subtype

/-!
# Well-formed types

Which types a module may use, under the enabled proposals and the types it has declared.
-/
namespace WasmLens.Wasm

/-- Whether there is a value of this type that everything of it can start out with. -/
def ValType.isDefaultable : ValType → Bool
  | .ref t => t.nullable
  | _ => true

namespace Context

variable (c : Context)

def checkAbstract (a : AbstractHeap) (nullable : Bool) : Except Fault Unit :=
  match a with
  | .func | .external => require (nullable || c.features.gc) "function references"
  | .exception | .noException => require c.features.exceptions "exceptions"
  | _ => require c.features.gc "gc"

def checkRef (t : RefType) : Except Fault Unit := do
  require c.features.referenceTypes "reference types"
  match t.heap with
  | .abstract a => c.checkAbstract a t.nullable
  | .concrete index =>
    require c.features.gc "function references"
    let _ ← lookUp c.types "type" index

def checkValue : ValType → Except Fault Unit
  | .i32 | .i64 | .f32 | .f64 => .ok ()
  | .v128 => require c.features.simd "SIMD"
  | .ref t => c.checkRef t

def checkFuncType (t : FuncType) : Except Fault Unit := do
  t.params.forM c.checkValue
  t.results.forM c.checkValue
  if 1 < t.results.length then require c.features.multiValue "multi-value"

def checkField (t : FieldType) : Except Fault Unit :=
  match t.storage with
  | .value v => c.checkValue v
  | _ => .ok ()

def checkComposite : CompositeType → Except Fault Unit
  | .func t => c.checkFuncType t
  | .struct fields => do
    require c.features.gc "gc"
    fields.forM c.checkField
  | .array field => do
    require c.features.gc "gc"
    c.checkField field

/-- Checks the type at an index against its supertype, which must come before it. -/
def checkSubType (index : Nat) (t : SubType) : Except Fault Unit := do
  if !t.isFinal || t.supertype.isSome then require c.features.gc "gc"
  c.checkComposite t.composite
  match t.supertype with
  | none => return
  | some super =>
    let above ← lookUp c.types "type" super
    if index ≤ super || above.isFinal || !c.compositeBelow t.composite above.composite then
      throw .typeMismatch
    atMost maxSubtypingDepth (c.depthOf (maxSubtypingDepth + 2) index) "supertype"

/-- Checks a group. Its types may refer to each other, so they are entered first. -/
def addGroup (group : RecGroup) : Except Fault Context := do
  if group.isExplicit then require c.features.gc "gc"
  let entered := c.enterGroup group
  (group.types.zipIdx c.types.size).forM fun (t, index) => entered.checkSubType index t
  return entered

/-! ## Tables, memories and globals -/

def checkLimits (l : Limits) : Except Fault Unit :=
  match l.maximum with
  | some maximum => if l.minimum ≤ maximum then .ok () else .error (.outOfRange "minimum size")
  | none => .ok ()

def maxTableEntries : Nat := 10000000

def checkTable (t : TableType) : Except Fault Unit := do
  if t.element ≠ RefType.func then c.checkRef t.element
  if t.is64 then require c.features.memory64 "memory64"
  checkLimits t.limits
  if maxTableEntries < t.limits.minimum then throw (.outOfRange "table size")
  if t.isShared then throw (.disabled "shared tables")

/-- The most pages that addresses of 32 or 64 bits reach. -/
def maxPages (is64 : Bool) : Nat := if is64 then twoTo 48 else twoTo 16

def checkMemory (t : MemoryType) : Except Fault Unit := do
  checkLimits t.limits
  if t.is64 then require c.features.memory64 "memory64"
  if t.isShared then require c.features.threads "threads"
  if t.pageSizeLog2.isSome then throw (.disabled "custom page sizes")
  if maxPages t.is64 < t.limits.minimum || t.limits.maximum.any (maxPages t.is64 < ·) then
    throw (.outOfRange "memory size")
  if t.isShared && t.limits.maximum.isNone then throw (.outOfRange "shared memory size")

def checkGlobal (t : GlobalType) : Except Fault Unit := do
  c.checkValue t.content
  if t.isShared then throw (.disabled "shared globals")

/-- The type of a tag is a function without results. -/
def checkTag (type : Nat) : Except Fault Unit := do
  require c.features.exceptions "exceptions"
  let t ← c.funcTypeAt type
  if !t.results.isEmpty then throw .typeMismatch

end Context

end WasmLens.Wasm
