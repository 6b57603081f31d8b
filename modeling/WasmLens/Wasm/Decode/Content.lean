import WasmLens.Wasm.Decode.Operator
import WasmLens.Wasm.Section

/-!
# Reading the contents of sections

`Content.ofSection` reads a section as a whole: nothing may be left over behind the items it counts.
-/
namespace WasmLens.Wasm

namespace Decode

/-- A count and that many items. -/
def items {α : Type} (item : Reader α) : Reader (List α) := do
  Reader.vector item (← Reader.u32)

def importDesc : Reader ImportDesc := do
  match ← Reader.byte with
  | 0x00 => return .func (← Reader.u32)
  | 0x01 => return .table (← tableType)
  | 0x02 => return .memory (← memoryType)
  | 0x03 => return .global (← globalType)
  | 0x04 =>
    let _ ← zeroByte
    return .tag (← Reader.u32)
  | _ => Reader.fail (.malformed "import kind")

def importItem : Reader Import := do
  let module ← Reader.text
  let name ← Reader.text
  return ⟨module, name, ← importDesc⟩

def exportKind : Reader ExportKind := do
  match ← Reader.byte with
  | 0x00 => return .func
  | 0x01 => return .table
  | 0x02 => return .memory
  | 0x03 => return .global
  | 0x04 => return .tag
  | _ => Reader.fail (.malformed "export kind")

def exportItem : Reader Export := do
  let name ← Reader.text
  let kind ← exportKind
  return ⟨name, kind, ← Reader.u32⟩

variable (f : Features)

/-- A table may start with a byte that says that an initial value follows its type. -/
def tableItem : Reader Table := do
  if (← Reader.peek) = 0x40 then
    let _ ← Reader.byte
    let _ ← zeroByte
    let type ← tableType
    return ⟨type, some (← constExpr f)⟩
  else return ⟨← tableType, none⟩

def globalItem : Reader Global := do
  let type ← globalType
  return ⟨type, ← constExpr f⟩

/-- An element segment. Three flag bits say whether it is passive or declared, whether it names its
table and type, and whether its items are expressions. -/
def elementItem : Reader Element := do
  let flags ← Reader.u32
  if 8 ≤ flags then Reader.fail (.malformed "element flags")
  let mode ← (do
    if flags.testBit 0 then
      return if flags.testBit 1 then SegmentMode.declared else SegmentMode.passive
    else
      let table ← if flags.testBit 1 then Reader.u32 else pure 0
      return SegmentMode.active table (← constExpr f))
  let typed := flags.testBit 0 || flags.testBit 1
  if flags.testBit 2 then
    let type ← if typed then refType else pure RefType.func
    return ⟨mode, .expressions type (← items (constExpr f))⟩
  else
    if typed then
      if (← exportKind) ≠ .func then Reader.fail (.malformed "element kind")
    return ⟨mode, .functions (← items Reader.u32)⟩

def dataItem : Reader DataSegment := do
  let flags ← Reader.u32
  let mode ← (do
    match flags with
    | 0 => return SegmentMode.active 0 (← constExpr f)
    | 1 => return SegmentMode.passive
    | 2 =>
      let memory ← Reader.u32
      return SegmentMode.active memory (← constExpr f)
    | _ => Reader.fail (.malformed "data flags"))
  return ⟨mode, ← Reader.take (← Reader.u32)⟩

def localGroup : Reader LocalGroup := do
  let count ← Reader.u32
  return ⟨count, ← valType⟩

/-- The body of a function from its bytes. -/
def body (bytes : List UInt8) : Except Fault Body := do
  let (locals, rest) ← (items localGroup) bytes
  return ⟨bytes, locals, ← Reader.untilEmpty (operator f) rest⟩

def sizedBody : Reader Body := do
  let bytes ← Reader.take (← Reader.u32)
  match body f bytes with
  | .ok b => return b
  | .error fault => Reader.fail fault

end Decode

/-- Reads what a section holds. A section of an id that the format does not have is a fault. -/
def Content.ofSection (f : Features) (s : Section) : Except Fault Content :=
  let whole {α : Type} (make : α → Content) (r : Reader α) (what : String) : Except Fault Content :=
    (r.runOn what s.contents).map make
  if s.id = Section.customId then
    (Reader.text s.contents).map fun (name, rest) => .custom name rest
  else if s.id = Section.typeId then whole .types (Decode.items Decode.recGroup) "type section"
  else if s.id = Section.importId then
    whole .imports (Decode.items Decode.importItem) "import section"
  else if s.id = Section.functionId then whole .functions (Decode.items Reader.u32) "function section"
  else if s.id = Section.tableId then whole .tables (Decode.items (Decode.tableItem f)) "table section"
  else if s.id = Section.memoryId then
    whole .memories (Decode.items Decode.memoryType) "memory section"
  else if s.id = Section.tagId then
    whole .tags (Decode.items (do let _ ← Decode.zeroByte; Reader.u32)) "tag section"
  else if s.id = Section.globalId then
    whole .globals (Decode.items (Decode.globalItem f)) "global section"
  else if s.id = Section.exportId then
    whole .exports (Decode.items Decode.exportItem) "export section"
  else if s.id = Section.startId then whole .start Reader.u32 "start section"
  else if s.id = Section.elementId then
    whole .elements (Decode.items (Decode.elementItem f)) "element section"
  else if s.id = Section.dataCountId then whole .dataCount Reader.u32 "data count section"
  else if s.id = Section.codeId then
    whole .code (Decode.items (Decode.sizedBody f)) "code section"
  else if s.id = Section.dataId then whole .data (Decode.items (Decode.dataItem f)) "data section"
  else .error (.malformed "section id")

end WasmLens.Wasm
