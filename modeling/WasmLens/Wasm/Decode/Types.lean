import WasmLens.Wasm.Reader
import WasmLens.Wasm.Types

/-!
# Reading types
-/
namespace WasmLens.Wasm.Decode

/-! ## Limits of the implementation -/

def maxTypes : Nat := 1000000
def maxSupertypes : Nat := 1
def maxParams : Nat := 1000
def maxResults : Nat := 1000
def maxFields : Nat := 10000
/-- Types are named by indices of twenty bits. -/
def typeIndexBound : Nat := twoTo 20

/-! ## Reference and value types -/

def abstractHeap? : UInt8 → Option AbstractHeap
  | 0x70 => some .func
  | 0x6f => some .external
  | 0x6e => some .any
  | 0x6d => some .eq
  | 0x6c => some .i31
  | 0x6b => some .struct
  | 0x6a => some .array
  | 0x69 => some .exception
  | 0x73 => some .noFunc
  | 0x72 => some .noExternal
  | 0x71 => some .bottom
  | 0x74 => some .noException
  | _ => none

def heapType : Reader HeapType := do
  let b ← Reader.peek
  match abstractHeap? b with
  | some a =>
    let _ ← Reader.byte
    return .abstract a
  | none =>
    let index ← Reader.signed 33
    if 0 ≤ index ∧ index < typeIndexBound then return .concrete index.toNat
    else Reader.fail (.malformed "heap type")

def refType : Reader RefType := do
  let b ← Reader.byte
  match abstractHeap? b with
  | some a => return ⟨true, .abstract a⟩
  | none =>
    if b = 0x63 then return ⟨true, ← heapType⟩
    else if b = 0x64 then return ⟨false, ← heapType⟩
    else Reader.fail (.malformed "reference type")

def numType? : UInt8 → Option ValType
  | 0x7f => some .i32
  | 0x7e => some .i64
  | 0x7d => some .f32
  | 0x7c => some .f64
  | 0x7b => some .v128
  | _ => none

/-- Whether a byte starts a value type. -/
def startsValType (b : UInt8) : Bool :=
  (numType? b).isSome || (abstractHeap? b).isSome || b = 0x63 || b = 0x64

def valType : Reader ValType := do
  let b ← Reader.peek
  match numType? b with
  | some t =>
    let _ ← Reader.byte
    return t
  | none =>
    if startsValType b then return .ref (← refType)
    else Reader.fail (.malformed "value type")

/-! ## Type definitions -/

def flag (what : String) : Reader Bool := do
  let b ← Reader.byte
  if b = 0 then return false
  else if b = 1 then return true
  else Reader.fail (.malformed what)

def fieldType : Reader FieldType := do
  let b ← Reader.peek
  let storage ← (do
    if b = 0x78 then
      let _ ← Reader.byte
      return StorageType.i8
    else if b = 0x77 then
      let _ ← Reader.byte
      return StorageType.i16
    else return StorageType.value (← valType))
  return ⟨storage, ← flag "mutability"⟩

def funcType : Reader FuncType := do
  let params ← Reader.vector valType (← Reader.count maxParams "function parameter")
  let results ← Reader.vector valType (← Reader.count maxResults "function result")
  return ⟨params, results⟩

/-- A composite type, whose first byte has been read. -/
def compositeType (form : UInt8) : Reader CompositeType :=
  if form = 0x60 then return .func (← funcType)
  else if form = 0x5f then
    return .struct (← Reader.vector fieldType (← Reader.count maxFields "field"))
  else if form = 0x5e then return .array (← fieldType)
  else Reader.fail (.malformed "type form")

/-- A type definition, whose first byte has been read. -/
def subType (form : UInt8) : Reader SubType :=
  if form = 0x50 ∨ form = 0x4f then do
    let supertypes ← Reader.vector Reader.u32 (← Reader.count maxSupertypes "supertype")
    return ⟨form = 0x4f, supertypes.head?, ← compositeType (← Reader.byte)⟩
  else return ⟨true, none, ← compositeType form⟩

def recGroup : Reader RecGroup := do
  let form ← Reader.byte
  if form = 0x4e then
    let count ← Reader.count maxTypes "type"
    return ⟨true, ← Reader.vector (do subType (← Reader.byte)) count⟩
  else return ⟨false, [← subType form]⟩

/-! ## Types of tables, memories and globals -/

/-- Limits in integers of 32 or 64 bits. -/
def limits (hasMaximum is64 : Bool) : Reader Limits := do
  let size := if is64 then Reader.u64 else Reader.u32
  let minimum ← size
  if hasMaximum then return ⟨minimum, some (← size)⟩ else return ⟨minimum, none⟩

def tableType : Reader TableType := do
  let element ← refType
  let flags := (← Reader.byte).toNat
  if 8 ≤ flags then Reader.fail (.malformed "table limits")
  let is64 := flags.testBit 2
  return ⟨element, ← limits (flags.testBit 0) is64, is64, flags.testBit 1⟩

def memoryType : Reader MemoryType := do
  let flags := (← Reader.byte).toNat
  if 16 ≤ flags then Reader.fail (.malformed "memory limits")
  let is64 := flags.testBit 2
  let limits ← limits (flags.testBit 0) is64
  let pageSizeLog2 ← if flags.testBit 3 then (some <$> Reader.u32) else pure none
  return ⟨limits, is64, flags.testBit 1, pageSizeLog2⟩

def globalType : Reader GlobalType := do
  let content ← valType
  let flags := (← Reader.byte).toNat
  if 4 ≤ flags then Reader.fail (.malformed "mutability")
  return ⟨content, flags.testBit 0, flags.testBit 1⟩

end WasmLens.Wasm.Decode
