import WasmLens.Code.Layout
import WasmLens.Config.Basic
import WasmLens.Machine.Image
import WasmLens.Module.MemoryExport
import WasmLens.Module.Reading

/-!
# Compiled modules

A module that is ready to be instantiated: its outline, its code as the machine runs it, and where the
engine says that code lies. If the module defines its first memory and does not export it, the machine
gets the module with one more export, so that a host can always reach that memory by a name.
-/
namespace WasmLens

structure CompiledModule where
  config : Config
  outline : Outline
  image : Machine.Image
  program : Machine.Program
  /-- What the module exports that the machine loads. -/
  exports : List Wasm.Export
  /-- A name that the first memory is exported under, unless it is imported. -/
  memoryExport : Option String
  /-- The code of all functions as the engine has it. -/
  text : List UInt8
  /-- Where in the text the engine says that the code of each function lies. -/
  locations : List Code.Span
  /-- The bytes that the module was given as. -/
  bytes : List UInt8

namespace CompiledModule

/-- An inconsistent configuration asks for something that is not supported. -/
def checkConfig (c : Config) : Except Error Unit :=
  match c.validate with
  | .ok () => .ok ()
  | .error cause => .error (.unsupported cause.message)

/-- What the machine is given to load, and the name of the exported memory. -/
def exposeMemory (o : Outline) (bytes : List UInt8) :
    Except Error (Option (List UInt8) × Option String) :=
  if o.memories.isEmpty || o.isImportedMemory 0 then .ok (none, none)
  else
    match o.memoryExport? 0 with
    | some name => .ok (none, some name)
    | none =>
      let name := MemoryExport.reservedName o
      match MemoryExport.exportMemory bytes name with
      | .ok exposed => .ok (some exposed, some name)
      | .error fault => .error (Reading.invalid 0 fault)

/-- The contents of the module that the machine loads. -/
def loaded (c : Config) (r : Reading) : Option (List UInt8) → Except Error (List Wasm.Content)
  | none => .ok r.contents
  | some exposed =>
    match Reading.ofBytes c.features exposed with
    | .ok r => .ok r.contents
    | .error cause => .error (.compile cause.message)

/-- Where the bodies of functions lie that stand one behind the other. -/
def spansFrom : (start func : Nat) → List Wasm.Body → List Code.Span
  | _, _, [] => []
  | start, func, b :: bodies =>
    let stop := start + b.bytes.length
    ⟨func, start, stop⟩ :: spansFrom stop (func + 1) bodies

/-- Compiles a module under a configuration. -/
def ofBytes (c : Config) (bytes : List UInt8) : Except Error CompiledModule := do
  let r ← Reading.ofBytes c.features bytes
  let (exposed, memoryExport) ← exposeMemory r.outline bytes
  let contents ← loaded c r exposed
  let image := Machine.Image.ofContents contents
  match image.program? with
  | some program =>
    return {
      config := c
      outline := r.outline
      image
      program
      exports := contents.flatMap (·.exportItems)
      memoryExport
      text := image.bodies.flatMap (·.bytes)
      locations := spansFrom 0 r.outline.importedFunctions image.bodies
      bytes }
  | none => throw (.compile "code does not assemble")

variable (m : CompiledModule)

/-! ## Code -/

def layout : Code.Layout := Code.Layout.ofSpans m.text m.locations

/-! ## Exports -/

/-- The memory that the machine has under a name. -/
def memoryNamed? (name : String) : Option Nat :=
  (m.exports.find? (·.name = name)).bind fun e => if e.kind = .memory then some e.index else none

/-! ## Imports -/

/-- The signature of an imported function. -/
def importSignature? (i : ModuleImport) : Option Signature :=
  match i.entity with
  | .function type => m.outline.types[type]?
  | _ => none

end CompiledModule

end WasmLens
