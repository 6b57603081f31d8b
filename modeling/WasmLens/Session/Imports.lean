import WasmLens.Machine.Instantiate
import WasmLens.Module.Compiled

/-!
# Imports

What a host provides to a module: its first memory and its globals, each declared as a whole. What is
declared lives in the store: the memory is the first one there, and each global has a cell. A host can
set an immutable global as long as no instance uses its cell; it then gets another cell.
-/
namespace WasmLens.Session

open Machine

/-- How large the first memory of a module may be, and who creates it. -/
structure MemoryPlan where
  minimum : Nat
  maximum : Option Nat
  is64 : Bool
  isImported : Bool
  deriving Repr, DecidableEq

/-- Why a memory cannot be declared. -/
inductive MemoryFault where
  | refused (cause : Error)
  /-- The maximum is beyond what 32-bit addresses reach. The host gives up on this; it is no error
  that it could handle. -/
  | unaddressable
  deriving Repr, DecidableEq

namespace MemoryFault

/-- What the host says when it gives up. -/
def unaddressableText : String :=
  "called `Result::unwrap()` on an `Err` value: "
    ++ "maximum size is too large for this memory type's index type"

end MemoryFault

namespace MemoryPlan

/-- The lower one of a declared maximum and the cap. -/
def lowered (maximum cap : Option Nat) : Option Nat :=
  match maximum, cap with
  | some maximum, some cap => some (min maximum cap)
  | maximum, none => maximum
  | none, cap => cap

/-- The plan for a memory under a cap, which must leave room for its minimum. -/
def ofMemory (memory : MemoryInfo) (isImported : Bool) (cap : Option Nat) : Except Error MemoryPlan :=
  let maximum := lowered memory.maximum cap
  match maximum.filter (· < memory.minimum) with
  | some maximum =>
    .error (.allocation ("memory needs " ++ toString memory.minimum ++ " pages but may only have "
      ++ toString maximum))
  | none => .ok ⟨memory.minimum, maximum, memory.is64, isImported⟩

/-- A limit that a 32-bit memory type cannot even express. -/
def isInexpressible (p : MemoryPlan) : Bool :=
  !p.is64 && (twoTo 32 ≤ p.minimum || p.maximum.any (twoTo 32 ≤ ·))

/-- A maximum that a 32-bit memory type can express and its addresses do not reach. -/
def isUnaddressable (p : MemoryPlan) : Bool :=
  !p.is64 && p.maximum.any (Wasm.Context.maxPages false < ·)

/-- The memory that a plan asks for, in a store with a limit. -/
def create (p : MemoryPlan) (limit : Option Nat) : Except MemoryFault LinearMemory :=
  if p.isInexpressible then .error (.refused (.allocation "32-bit memory limits out of range"))
  else if p.isUnaddressable then .error .unaddressable
  else if LinearMemory.canStart limit p.is64 p.minimum then
    .ok (LinearMemory.ofLimits p.minimum p.maximum p.is64)
  else
    .error (.refused (.allocation ("memory minimum size of " ++ toString p.minimum
      ++ " pages exceeds memory limits")))

end MemoryPlan

/-- What was found out about the first memory when it was declared. -/
inductive Backing where
  | absent
  /-- The host has created it. -/
  | imported (plan : MemoryPlan)
  /-- The module will create it. -/
  | defined (plan : MemoryPlan)
  deriving Repr, DecidableEq

def Backing.plan? : Backing → Option MemoryPlan
  | .absent => none
  | .imported plan | .defined plan => some plan

/-- An imported global. -/
structure GlobalImport where
  module : String
  name : String
  type : ValueType
  isMutable : Bool
  /-- The place of its cell in the store. -/
  cell : Nat
  deriving Repr, DecidableEq

/-- What has been declared so far. -/
structure Imports where
  memory : Option Backing := none
  globals : Option (List GlobalImport) := none
  /-- Whether an instance uses the cells. -/
  isBound : Bool := false
  deriving Repr, DecidableEq

namespace Imports

variable (i : Imports)

def memoryPlan? : Option MemoryPlan := i.memory.bind Backing.plan?

/-- The declared globals, none if they are not declared. -/
def globalList : List GlobalImport := i.globals.getD []

/-- Whether the host has created the first memory. -/
def hasMemory : Bool :=
  match i.memory with
  | some (.imported _) => true
  | _ => false

/-! ## Declaring -/

/-- Declares the first memory, and creates it if the module imports it. A memory that is declared
stays as it is. -/
def declareMemory (s : Store) (m : CompiledModule) : Except MemoryFault (Imports × Store) :=
  if i.memory.isSome then .ok (i, s)
  else
    match m.outline.primaryMemory? with
    | none => .ok ({ i with memory := some .absent }, s)
    | some memory => do
      let plan ← (MemoryPlan.ofMemory memory (m.outline.isImportedMemory 0) m.config.pageCap).mapError
        MemoryFault.refused
      if !plan.isImported then return ({ i with memory := some (.defined plan) }, s)
      if memory.isShared then throw (.refused (.unsupported "shared memories"))
      let created ← plan.create s.memoryLimit
      return ({ i with memory := some (.imported plan) }, { s with memories := #[created] })

/-- What a global of the engine's type starts out with: zero where a host has a value of it. -/
def seed? (info : GlobalInfo) (type : Wasm.GlobalType) : Option Val :=
  (Value.zero info.type).toVal? <|> Val.default? type.content

/-- Creates a cell for every global among the imports. The n-th global import goes with the n-th
description in the outline and with the n-th type that the engine lists. -/
def createGlobals (s : Store) : List ModuleImport → List GlobalInfo → List Wasm.GlobalType →
    Except Error (List GlobalImport × Store)
  | [], _, _ => .ok ([], s)
  | m :: imports, infos, types =>
    match m.entity with
    | .global _ =>
      match infos, types with
      | info :: infos, type :: types => do
        match seed? info type with
        | none =>
          throw (.unsupported ("global import " ++ m.module ++ "::" ++ m.name
            ++ " has a type without a default value"))
        | some v =>
          let (cell, s) ← (s.newGlobal type v).mapError (.allocation ·.message)
          let (globals, s) ← createGlobals s imports infos types
          return (⟨m.module, m.name, info.type, info.isMutable, cell⟩ :: globals, s)
      | _, _ =>
        .error (.link ("global import " ++ m.module ++ "::" ++ m.name
          ++ " is missing from the compiled module"))
    | .function _ | .table | .memory _ => createGlobals s imports infos types

/-- Declares all imported globals, each of them zero. Globals that are declared stay as they are. -/
def declareGlobals (s : Store) (m : CompiledModule) : Except Error (Imports × Store) :=
  if i.globals.isSome then .ok (i, s)
  else do
    let (globals, s) ← createGlobals s m.outline.imports m.outline.globals m.image.importedGlobals
    return ({ i with globals := some globals }, s)

/-! ## Globals by name -/

/-- The place of the last global of a name. -/
def placeOf? (name : String) : Option Nat :=
  ((i.globalList.zipIdx.filter fun (g, _) => g.name = name).getLast?).map (·.2)

/-- The last global of a name, with its place. -/
def global? (name : String) : Option (GlobalImport × Nat) :=
  (i.placeOf? name).bind fun place => (i.globalList[place]?).map (·, place)

/-- The imports with another cell for a global. -/
def moveGlobal (place cell : Nat) : Imports :=
  { i with globals := i.globals.map (·.modify place ({ · with cell })) }

/-- Sets a global to the bits of a value, read at its own type. Names that are not declared, and
globals that have no host value, are left alone. -/
def setGlobal (s : Store) (name : String) (v : Value) : Except Error (Imports × Store) :=
  match i.global? name with
  | none => .ok (i, s)
  | some (g, place) =>
    match (Value.ofBits g.type v.toBits).toVal? with
    | none => .ok (i, s)
    | some x =>
      if g.isMutable then
        match s.setGlobal g.cell x with
        | .ok s => .ok (i, s)
        | .error fault => .error (.link fault.message)
      else if i.isBound then .error (.immutableGlobal name)
      else
        match s.newLike g.cell x with
        | .ok (cell, s) => .ok (i.moveGlobal place cell, s)
        | .error fault => .error (.allocation fault.message)

/-- The type and the value of a global, `void` for a name that is not declared. -/
def getGlobal (s : Store) (name : String) : ValueType × Value :=
  match i.global? name with
  | none => (.void, .void)
  | some (g, _) => (g.type, (s.globals[g.cell]?.map (·.value.toValue)).getD .void)

/-! ## Linking -/

/-- What imports are bound to, `next` being the place of the next declared global; or the first import
that nothing is declared for. -/
def externsFrom (next : Nat) : List ModuleImport → Except ModuleImport (List Extern)
  | [] => .ok []
  | m :: imports =>
    match m.entity with
    | .memory index =>
      if index = 0 && i.hasMemory then (externsFrom next imports).map (.memory 0 :: ·) else .error m
    | .global _ =>
      match i.globalList[next]? with
      | some g => (externsFrom (next + 1) imports).map (.global g.cell :: ·)
      | none => .error m
    | .function _ | .table => .error m

/-- What the imports of a module are bound to, or the first one that is missing. -/
def externs (o : Outline) : Except ModuleImport (List Extern) := i.externsFrom 0 o.imports

/-- The first import that is not provided for. -/
def missing? (o : Outline) : Option ModuleImport :=
  match i.externs o with
  | .ok _ => none
  | .error m => some m

end Imports

end WasmLens.Session
