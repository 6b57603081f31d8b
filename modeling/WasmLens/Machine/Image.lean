import WasmLens.Machine.Step
import WasmLens.Wasm.Content

/-!
# Images

What a module becomes before it is instantiated: its functions as structured code, and what its
memories, tables, globals and segments start out with. A module that was read section by section
enters its image section by section.
-/
namespace WasmLens.Machine

open Wasm

structure Image where
  types : Array (Option FuncType) := #[]
  /-- The types of all functions, imported ones first, by type index. -/
  functionTypes : Array Nat := #[]
  imports : List Import := []
  importedFunctions : Nat := 0
  importedGlobals : List GlobalType := []
  /-- The memories that the module defines. -/
  memories : List MemoryType := []
  /-- The tables that the module defines. -/
  tables : List Wasm.Table := []
  /-- The globals that the module defines. -/
  globals : List Global := []
  elements : List Element := []
  data : List DataSegment := []
  start : Option Nat := none
  bodies : List Body := []

namespace Image

def add (i : Image) : Content → Image
  | .types groups => { i with types := i.types ++ (groups.flatMap (·.types)).map SubType.funcType? }
  | .imports items =>
    let functions := items.filterMap fun item =>
      match item.desc with
      | .func type => some type
      | _ => none
    let globals := items.filterMap fun item =>
      match item.desc with
      | .global t => some t
      | _ => none
    { i with
      imports := items
      functionTypes := functions.toArray
      importedFunctions := functions.length
      importedGlobals := globals }
  | .functions types => { i with functionTypes := i.functionTypes ++ types }
  | .memories items => { i with memories := items }
  | .tables items => { i with tables := items }
  | .globals items => { i with globals := items }
  | .elements items => { i with elements := items }
  | .data segments => { i with data := segments }
  | .start func => { i with start := some func }
  | .code bodies => { i with bodies := bodies }
  | .custom .. | .tags _ | .exports _ | .dataCount _ => i

def ofContents (contents : List Content) : Image := contents.foldl add {}

/-! ## The program of an image -/

def typeAt? (i : Image) (type : Nat) : Option FuncType := i.types[type]?.join

def arityOf? (i : Image) : BlockType → Option Arity
  | .empty => some ⟨0, 0⟩
  | .value _ => some ⟨0, 1⟩
  | .func type => (i.typeAt? type).map Arity.ofType

/-- What the locals of a body start out with. -/
def localsOf (b : Body) : List Val :=
  b.locals.flatMap fun g => List.replicate g.count (Val.zero g.type)

/-- A function that the module defines. -/
def function? (i : Image) (type : Nat) (b : Body) : Option Function := do
  let t ← i.typeAt? type
  let code ← Code.assemble i.arityOf? b.operators
  return ⟨t, localsOf b, some code⟩

/-- The program of the image; `none` if the image is not that of a valid module. -/
def program? (i : Image) : Option Program := do
  let imported ← (i.functionTypes.toList.take i.importedFunctions).mapM fun type => do
    return ⟨← i.typeAt? type, [], none⟩
  let defined ← ((i.functionTypes.toList.drop i.importedFunctions).zip i.bodies).mapM
    fun (type, body) => i.function? type body
  return ⟨i.types, (imported ++ defined).toArray⟩

end Image

end WasmLens.Machine
