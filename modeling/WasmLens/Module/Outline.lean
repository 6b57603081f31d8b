import Std.Data.TreeMap
import WasmLens.Error
import WasmLens.Module.Names
import WasmLens.Module.Warning
import WasmLens.Signature
import WasmLens.Wasm.Content

/-!
# The outline of a module

What a host can see of a module: its index spaces with types as the host knows them, its imports and
exports, and its names. Types that no host value has show as `void`, each with a warning. The outline
grows with the contents of one section after another.
-/
namespace WasmLens

/-- What an import brings, by its type or its place in an index space. -/
inductive ImportEntity where
  | function (type : Nat)
  | table
  | memory (index : Nat)
  | global (index : Nat)
  deriving Repr, DecidableEq

def ImportEntity.kind : ImportEntity → ExternKind
  | .function _ => .function
  | .table => .table
  | .memory _ => .memory
  | .global _ => .global

structure ModuleImport where
  module : String
  name : String
  entity : ImportEntity
  deriving Repr, DecidableEq

structure ModuleExport where
  name : String
  kind : ExternKind
  index : Nat
  deriving Repr, DecidableEq

structure MemoryInfo where
  minimum : Nat
  maximum : Option Nat
  is64 : Bool
  isShared : Bool
  deriving Repr, DecidableEq

structure GlobalInfo where
  type : ValueType
  isMutable : Bool
  deriving Repr, DecidableEq

structure Outline where
  name : Option String := none
  types : List Signature := []
  /-- The type of every function, imported functions first. -/
  functions : List Nat := []
  /-- Imported memories first. -/
  memories : List MemoryInfo := []
  /-- Imported globals first. -/
  globals : List GlobalInfo := []
  imports : List ModuleImport := []
  exports : List ModuleExport := []
  functionNames : Std.TreeMap Nat String := ∅
  start : Option Nat := none
  importedFunctions : Nat := 0
  importedMemories : Nat := 0
  importedGlobals : Nat := 0
  warnings : List Warning := []

/-- The type that a host sees; `none` if it has no values of it. -/
def Wasm.ValType.reflect? : Wasm.ValType → Option ValueType
  | .i32 => some .i32
  | .i64 => some .i64
  | .f32 => some .f32
  | .f64 => some .f64
  | _ => none

def Wasm.ValType.reflect (t : Wasm.ValType) : ValueType := t.reflect?.getD .void

namespace Outline

/-! ## Looking things up -/

/-- The signature of a function. -/
def signature? (o : Outline) (func : Nat) : Option Signature :=
  o.functions[func]?.bind fun type => o.types[type]?

/-- The first name that an entity is exported under. -/
def exportName? (o : Outline) (kind : ExternKind) (index : Nat) : Option String :=
  (o.exports.find? fun e => e.kind = kind && e.index = index).map (·.name)

def functionExport? (o : Outline) (func : Nat) : Option String := o.exportName? .function func

def memoryExport? (o : Outline) (memory : Nat) : Option String := o.exportName? .memory memory

def exportsName (o : Outline) (name : String) : Bool := o.exports.any (·.name = name)

/-- The memory that a host sees: the first one. -/
def primaryMemory? (o : Outline) : Option MemoryInfo := o.memories.head?

def isImportedMemory (o : Outline) (memory : Nat) : Bool := memory < o.importedMemories

/-! ## Types -/

/-- The warning for a type that a host has no values of. -/
def typeWarning (location : String) (index : Nat) (t : Wasm.ValType) : List Warning :=
  match t.reflect? with
  | some _ => []
  | none => [.unsupportedType location index t.text]

/-- The signature of a type; a type that is no function has an empty one. -/
def signatureOf (t : Wasm.SubType) : Signature :=
  match t.funcType? with
  | some f => ⟨f.params.map (·.reflect), f.results.map (·.reflect)⟩
  | none => ⟨[], []⟩

def signatureWarnings (index : Nat) (t : Wasm.SubType) : List Warning :=
  match t.funcType? with
  | some f =>
    f.params.flatMap (typeWarning "parameter" index) ++ f.results.flatMap (typeWarning "result" index)
  | none => []

def addTypes (o : Outline) (groups : List Wasm.RecGroup) : Outline :=
  let added := groups.flatMap (·.types)
  { o with
    types := o.types ++ added.map signatureOf
    warnings := o.warnings ++
      (added.zipIdx o.types.length).flatMap fun (t, index) => signatureWarnings index t }

/-! ## Imports and definitions -/

def memoryInfo (t : Wasm.MemoryType) : MemoryInfo :=
  ⟨t.limits.minimum, t.limits.maximum, t.is64, t.isShared⟩

def addGlobal (o : Outline) (t : Wasm.GlobalType) : Outline :=
  { o with
    globals := o.globals ++ [⟨t.content.reflect, t.isMutable⟩]
    warnings := o.warnings ++ typeWarning "global" o.globals.length t.content }

/-- Appends an import, with a warning if a host cannot provide it. -/
def pushImport (o : Outline) (i : Wasm.Import) (entity : ImportEntity) : Outline :=
  let warnings := match entity with
    | .function _ | .table => [.unsupportedImport i.module i.name entity.kind]
    | .memory _ | .global _ => []
  { o with
    imports := o.imports ++ [⟨i.module, i.name, entity⟩]
    warnings := o.warnings ++ warnings }

/-- The proposal that brings tags; modules that use it are refused. -/
def exceptionHandling : Error := .unsupported "exception handling"

def addImport (o : Outline) (i : Wasm.Import) : Except Error Outline :=
  match i.desc with
  | .func type =>
    .ok <| pushImport
      { o with
        functions := o.functions ++ [type]
        importedFunctions := o.importedFunctions + 1 } i (.function type)
  | .table _ => .ok (o.pushImport i .table)
  | .memory t =>
    .ok <| pushImport
      { o with
        memories := o.memories ++ [memoryInfo t]
        importedMemories := o.importedMemories + 1 } i (.memory o.memories.length)
  | .global t =>
    .ok <| pushImport { o.addGlobal t with importedGlobals := o.importedGlobals + 1 } i
      (.global o.globals.length)
  | .tag _ => .error exceptionHandling

/-- Warns of several memories, the first time that there are. -/
def noteMemories (o : Outline) : Outline :=
  let warned := o.warnings.any fun | .multipleMemories _ => true | _ => false
  if 1 < o.memories.length && !warned then
    { o with warnings := o.warnings ++ [.multipleMemories o.memories.length] }
  else o

/-! ## Exports and names -/

def exportKind? : Wasm.ExportKind → Option ExternKind
  | .func => some .function
  | .table => some .table
  | .memory => some .memory
  | .global => some .global
  | .tag => none

def addExport (o : Outline) (e : Wasm.Export) : Except Error Outline :=
  match exportKind? e.kind with
  | some kind => .ok { o with exports := o.exports ++ [⟨e.name, kind, e.index⟩] }
  | none => .error exceptionHandling

/-- A name replaces an earlier one. A function must be known at this place to be named. -/
def addName (o : Outline) : Naming → Outline
  | .module name => { o with name := some name }
  | .function index name =>
    if index < o.functions.length then
      { o with functionNames := o.functionNames.insert index name }
    else o

def addNames (o : Outline) (section_ : NameSection) : Outline :=
  let named := section_.names.foldl addName o
  match section_.fault with
  | some f => { named with warnings := named.warnings ++ [.malformedNames f.message] }
  | none => named

/-! ## Sections -/

/-- The name of the custom section that holds names. -/
def nameSectionName : String := "name"

def add (o : Outline) : Wasm.Content → Except Error Outline
  | .types groups => .ok (o.addTypes groups)
  | .imports items => (items.foldlM addImport o).map noteMemories
  | .functions types => .ok { o with functions := o.functions ++ types }
  | .memories items => .ok (noteMemories { o with memories := o.memories ++ items.map memoryInfo })
  | .tags _ => .error exceptionHandling
  | .globals items => .ok (items.foldl (fun o g => o.addGlobal g.type) o)
  | .exports items => items.foldlM addExport o
  | .start func => .ok { o with start := some func }
  | .custom name bytes =>
    .ok (if name = nameSectionName then o.addNames (NameSection.read bytes) else o)
  | .tables _ | .elements _ | .dataCount _ | .code _ | .data _ => .ok o

end Outline

end WasmLens
