import WasmLens.Wasm.Validate.Body

/-!
# Validation

A module is checked section by section. `Validator.step` takes the contents of one section; what it
adds to the context is all that later sections are checked against. Export names, and the size of the
types of imports and exports, are kept apart from the context, because nothing but later imports and
exports depends on them.
-/
namespace WasmLens.Wasm

/-! ## Limits of the implementation -/

def maxFunctions : Nat := 1000000
def maxImports : Nat := 1000000
def maxExports : Nat := 1000000
def maxGlobals : Nat := 1000000
def maxTags : Nat := 1000000
def maxElementSegments : Nat := 100000
def maxDataSegments : Nat := 100000
/-- The most that the types of a module's imports and exports may take together. -/
def maxTypeSize : Nat := 999999

/-- Without the proposal for it there can be only one table. -/
def maxTables (f : Features) : Nat := if f.referenceTypes then 100 else 1

def maxMemories (f : Features) : Nat := if f.multiMemory then 100 else 1

/-- The place of a kind of contents in the order of sections; a custom section has none. -/
def Content.place? : Content → Option Nat
  | .custom .. => none
  | .types _ => some 1
  | .imports _ => some 2
  | .functions _ => some 3
  | .tables _ => some 4
  | .memories _ => some 5
  | .tags _ => some 6
  | .globals _ => some 7
  | .exports _ => some 8
  | .start _ => some 9
  | .elements _ => some 10
  | .dataCount _ => some 11
  | .code _ => some 12
  | .data _ => some 13

namespace Context

variable (c : Context)

/-! ## Imports and definitions -/

def addFunction (type : Nat) : Except Fault Context := do
  let _ ← c.funcTypeAt type
  atMost maxFunctions (c.functions.size + 1) "function"
  return { c with functions := c.functions.push type }

def addTable (t : TableType) : Except Fault Context := do
  c.checkTable t
  atMost (maxTables c.features) (c.tables.size + 1) "table"
  return { c with tables := c.tables.push t }

def addMemory (t : MemoryType) : Except Fault Context := do
  c.checkMemory t
  atMost (maxMemories c.features) (c.memories.size + 1) "memory"
  return { c with memories := c.memories.push t }

def addGlobal (t : GlobalType) : Except Fault Context := do
  c.checkGlobal t
  atMost maxGlobals (c.globals.size + 1) "global"
  return { c with globals := c.globals.push t }

def addTag (type : Nat) : Except Fault Context := do
  c.checkTag type
  atMost maxTags (c.tags.size + 1) "tag"
  return { c with tags := c.tags.push type }

def addImport (i : Import) : Except Fault Context :=
  match i.desc with
  | .func type => c.addFunction type
  | .table t => c.addTable t
  | .memory t => c.addMemory t
  | .global t => do
    let added ← c.addGlobal t
    return { added with importedGlobals := added.importedGlobals + 1 }
  | .tag type => c.addTag type

/-- A defined table may start out with a value that is not null. -/
def defineTable (t : Table) : Except Fault Context := do
  let added ← c.addTable t.type
  match t.init with
  | none =>
    if !t.type.element.nullable then throw .typeMismatch
    return added
  | some e =>
    require c.features.gc "function references"
    let declared ← c.checkConstExpr (.ref t.type.element) e
    return { added with referable := declared.referable }

def defineGlobal (g : Global) : Except Fault Context := do
  let declared ← c.checkConstExpr g.type.content g.init
  declared.addGlobal g.type

/-! ## Exports, segments and the start function -/

/-- An exported entity must exist; an exported function can be referred to. -/
def addExport (e : Export) : Except Fault Context :=
  match e.kind with
  | .func => do
    let _ ← c.typeOfFunction e.index
    return c.refer [e.index]
  | .table => do
    let _ ← c.tableAt e.index
    return c
  | .memory => do
    let _ ← c.memoryAt e.index
    return c
  | .global => do
    let _ ← c.globalAt e.index
    return c
  | .tag => do
    let _ ← lookUp c.tags "tag" e.index
    return c

def checkStart (func : Nat) : Except Fault Unit := do
  let t ← c.typeOfFunction func
  if !t.params.isEmpty || !t.results.isEmpty then throw .typeMismatch

/-- Checks where a segment goes; `element` is the type of what it holds, if it holds references. -/
def checkElementMode (element : RefType) : SegmentMode → Except Fault Context
  | .active table offset => do
    let t ← c.tableAt table
    if !c.refBelow element t.element then throw .typeMismatch
    c.checkConstExpr (indexType t.is64) offset
  | _ => do
    require c.features.bulkMemory "bulk memory"
    return c

/-- Adds an element segment. What it lists as indices are references that are never null. -/
def addElement (e : Element) : Except Fault Context := do
  match e.items with
  | .functions indices =>
    let c ← c.checkElementMode RefType.funcNotNull e.mode
    atMost maxTableEntries indices.length "element"
    indices.forM fun i => do let _ ← c.typeOfFunction i
    return { c.refer indices with elements := c.elements.push RefType.funcNotNull }
  | .expressions type items =>
    c.checkRef type
    let c ← c.checkElementMode type e.mode
    atMost maxTableEntries items.length "element"
    let c ← items.foldlM (fun c item => c.checkConstExpr (.ref type) item) c
    return { c with elements := c.elements.push type }

def checkData (d : DataSegment) : Except Fault Context :=
  match d.mode with
  | .active memory offset => do
    let t ← c.memoryAt memory
    c.checkConstExpr (indexType t.is64) offset
  | _ => do
    require c.features.bulkMemory "bulk memory"
    return c

/-- Checks the bodies of the defined functions, the last ones of the function index space. -/
def checkCode (bodies : List Body) : Except Fault Unit := do
  match c.bodiesDue with
  | some due => if due ≠ bodies.length then throw (.countMismatch "function and code section")
  | none => if !bodies.isEmpty then throw (.countMismatch "function and code section")
  let first := c.functions.size - bodies.length
  (bodies.zipIdx first).forM fun (body, func) => do
    c.checkBody (← c.typeOfFunction func) body

/-! ## Sections -/

/-- Sections other than custom ones come at most once and in order. -/
def advance (content : Content) : Except Fault Context :=
  match content.place? with
  | none => .ok c
  | some place => if c.place < place then .ok { c with place := place } else .error .outOfOrder

/-- What the contents of a section add to the context. -/
def add (content : Content) : Except Fault Context := do
  let c ← c.advance content
  match content with
  | .custom .. => return c
  | .types groups =>
    atMost Decode.maxTypes (c.types.size + groups.length) "type"
    groups.foldlM addGroup c
  | .imports items =>
    atMost maxImports items.length "import"
    items.foldlM addImport c
  | .functions types =>
    let c ← types.foldlM addFunction c
    return { c with bodiesDue := some types.length }
  | .tables items => items.foldlM defineTable c
  | .memories items => items.foldlM addMemory c
  | .tags types =>
    require c.features.exceptions "exceptions"
    types.foldlM addTag c
  | .globals items => items.foldlM defineGlobal c
  | .exports items => items.foldlM addExport c
  | .start func =>
    c.checkStart func
    return c
  | .elements items =>
    atMost maxElementSegments items.length "element segment"
    items.foldlM addElement c
  | .dataCount count =>
    atMost maxDataSegments count "data segment"
    return { c with dataCount := some count }
  | .code bodies =>
    c.checkCode bodies
    return { c with bodiesDue := none }
  | .data segments =>
    atMost maxDataSegments segments.length "data segment"
    let c ← segments.foldlM checkData c
    return { c with dataSegments := segments.length }

/-- At the end of a module all bodies and all data that were announced must have come. -/
def finish : Except Fault Unit := do
  if c.dataCount.any (· ≠ c.dataSegments) then throw (.countMismatch "data count and data section")
  if c.bodiesDue.any (0 < ·) then throw (.countMismatch "function and code section")

end Context

/-! ## The size of types -/

/-- How much a type takes of what imports and exports may take together. -/
def SubType.size (t : SubType) : Nat :=
  match t.composite with
  | .func f => 2 + f.params.length + f.results.length
  | .struct fields => 2 + 2 * fields.length
  | .array _ => 3

namespace Context

variable (c : Context)

def typeSizeAt (type : Nat) : Nat := (c.types[type]?.map SubType.size).getD 0

def importSize (i : Import) : Nat :=
  match i.desc with
  | .func type | .tag type => c.typeSizeAt type
  | .table _ | .memory _ | .global _ => 1

def exportSize (e : Export) : Nat :=
  match e.kind with
  | .func => (c.functions[e.index]?.map c.typeSizeAt).getD 0
  | .tag => (c.tags[e.index]?.map c.typeSizeAt).getD 0
  | .table | .memory | .global => 1

/-- What the contents of a section take; the context is the one behind the section. -/
def sizeOf : Content → Nat
  | .imports items => items.foldl (fun size i => size + c.importSize i) 0
  | .exports items => items.foldl (fun size e => size + c.exportSize e) 0
  | _ => 0

end Context

/-- The context of the sections so far, the names they export, and how much the types of their imports
and exports take. -/
structure Validator where
  context : Context
  exported : List String := []
  typeSize : Nat := 1

namespace Validator

def start (f : Features) : Validator := { context := { features := f } }

/-- Enters export names, each of which must be new. -/
def enterNames (known : List String) : List Export → Except Fault (List String)
  | [] => .ok known
  | e :: exports =>
    if known.contains e.name then .error (.duplicateExport e.name)
    else do
      atMost maxExports (known.length + 1) "export"
      enterNames (known ++ [e.name]) exports

/-- The names that are exported once the contents of a section are entered. -/
def exportedAfter (v : Validator) : Content → Except Fault (List String)
  | .exports items => enterNames v.exported items
  | _ => .ok v.exported

def step (v : Validator) (content : Content) : Except Fault Validator := do
  let context ← v.context.add content
  let exported ← v.exportedAfter content
  let typeSize := v.typeSize + context.sizeOf content
  atMost maxTypeSize typeSize "type"
  return ⟨context, exported, typeSize⟩

end Validator

end WasmLens.Wasm
