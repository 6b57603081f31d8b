import WasmLens.Machine.Instantiate
import WasmLens.Session.Catalog
import WasmLens.Session.Imports
import WasmLens.Session.Timer

/-!
# Sessions

One module on its way from being compiled to running: first its imports are declared and its globals
set, then it is instantiated, once. Every operation takes a session to the next one and answers; an
operation that is refused leaves the session as it was, except that an instantiation which fails is
the end of it. An operation that runs code of the module answers nothing if that code never ends.
-/
namespace WasmLens

open Machine Session

/-- What a host holds of an instance. -/
structure Session.Instance where
  /-- The functions that can be called. -/
  functions : List Nat
  /-- The place of the first memory in the store. -/
  memory : Option Nat
  deriving Repr, DecidableEq

/-- Functions are reached through their exports. The first memory is the one that the host has created, or
else the one that the machine has under its name. -/
def Session.Instance.ofModule (m : CompiledModule) (i : Imports) : Session.Instance where
  functions := m.outline.exports.filterMap fun e => if e.kind = .function then some e.index else none
  memory := if i.hasMemory then some 0 else m.memoryExport.bind m.memoryNamed?

structure Session where
  module : CompiledModule
  store : Store
  imports : Imports := {}
  live : Option Session.Instance := none
  catalog : Catalog := {}
  phase : Phase := .compiled
  timer : Timer

namespace Session

/-! ## Starting -/

/-- A cap on pages in bytes, as far as a word can say. -/
def byteLimit (pages : Nat) : Nat := min (pages * Memory.pageSize) (twoTo 64 - 1)

def ofModule (m : CompiledModule) : Session where
  module := m
  store := { memoryLimit := m.config.pageCap.map byteLimit }
  timer := Timer.ofConfig m.config.measureCalls

/-- Compiles a module, after checking the configuration. -/
def compile (c : Config) (bytes : List UInt8) : Except Error Session := do
  CompiledModule.checkConfig c
  return ofModule (← CompiledModule.ofBytes c bytes)

variable (s : Session)

/-! ## Declaring imports -/

/-- Refuses an operation that is only for sessions that have not been instantiated. -/
def expectOpen (operation : String) : Except Error Unit :=
  if s.phase.isOpen then .ok () else .error (.invalidPhase operation s.phase)

def declareMemory : Session × Except MemoryFault (Option MemoryPlan) :=
  match s.expectOpen "declare a memory import" with
  | .error cause => (s, .error (.refused cause))
  | .ok () =>
    match s.imports.declareMemory s.store s.module with
    | .error fault => (s, .error fault)
    | .ok (imports, store) =>
      ({ s with imports, store, phase := .importsDeclared }, .ok imports.memoryPlan?)

def declareGlobals : Session × Except Error Unit :=
  match s.expectOpen "declare global imports" with
  | .error cause => (s, .error cause)
  | .ok () =>
    match s.imports.declareGlobals s.store s.module with
    | .error cause => (s, .error cause)
    | .ok (imports, store) => ({ s with imports, store, phase := .importsDeclared }, .ok ())

def memoryPlan? : Option MemoryPlan := s.imports.memoryPlan?

def globalImports : List GlobalImport := s.imports.globalList

def setGlobal (name : String) (v : Value) : Session × Except Error Unit :=
  match s.imports.setGlobal s.store name v with
  | .ok (imports, store) => ({ s with imports, store }, .ok ())
  | .error cause => (s, .error cause)

def getGlobal (name : String) : ValueType × Value := s.imports.getGlobal s.store name

/-! ## Instantiating -/

/-- What becomes of the store when an instance is built on it, and what is answered. -/
def answerOf : Machine.Instantiation → Store × Except Error Unit
  | .ready store => (store, .ok ())
  | .unlinkable store cause => (store, .error (.link cause.message))
  | .trapped store cause => (store, .error (.trap cause.message))

/-- Instantiates the module on the store. Nothing runs if an import is missing, and nothing is answered if
the start function never ends. -/
def link (s : Session) : Option (Store × Except Error Unit) :=
  match s.imports.externs s.module.outline with
  | .error m => some (s.store, .error (.missingImport m.module m.name m.entity.kind))
  | .ok externs =>
    (Machine.instantiate s.store externs s.module.image s.module.program s.module.config.bulkMemory).map
      answerOf

/-- The session behind an attempt to link its module. -/
def settled : Store × Except Error Unit → Session × Except Error Unit
  | (store, .error cause) => ({ s with store, phase := .failed }, .error cause)
  | (store, .ok ()) =>
    ({ s with
        store
        imports := { s.imports with isBound := true }
        live := some (Session.Instance.ofModule s.module s.imports)
        catalog := Catalog.build s.module
        phase := .instantiated }, .ok ())

/-- Instantiates the module, which may take forever. -/
def instantiate : Option (Session × Except Error Unit) :=
  match s.expectOpen "instantiate" with
  | .error cause => some (s, .error cause)
  | .ok () => s.link.map s.settled

/-! ## Memory -/

/-- The place of the first memory. -/
def memoryPlace : Except Error Nat :=
  match s.live with
  | none => .error .notInstantiated
  | some i =>
    match i.memory with
    | some place => .ok place
    | none => .error .noMemory

/-- The bytes of the first memory. -/
def memory : Except Error Memory.Buffer := do
  match s.store.memories[← s.memoryPlace]? with
  | some m => return m.buffer
  | none => throw .noMemory

def readMemory (offset length : Nat) : Except Error (List UInt8) := do
  let buffer ← s.memory
  (buffer.read offset length).mapError fun _ => .outOfBounds

def writeMemory (offset : Nat) (bytes : List UInt8) : Session × Except Error Unit :=
  match s.memoryPlace, s.memory with
  | .ok place, .ok buffer =>
    match buffer.write offset bytes with
    | .ok buffer =>
      let memories := s.store.memories.modify place ({ · with buffer })
      ({ s with store := { s.store with memories } }, .ok ())
    | .error _ => (s, .error .outOfBounds)
  | .error cause, _ | _, .error cause => (s, .error cause)

/-! ## Functions -/

def setTimer (timer : Timer) : Session := { s with timer }

/-- Whether an instance lets a function be called. -/
def canCall (func : Nat) : Bool := s.live.any (·.functions.contains func)

end Session

end WasmLens
