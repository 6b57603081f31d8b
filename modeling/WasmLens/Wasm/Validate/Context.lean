import WasmLens.Features
import WasmLens.Wasm.Content
import WasmLens.Wasm.Fault

/-!
# What a module has declared

The index spaces that validation looks things up in, as far as the sections read so far fill them.
-/
namespace WasmLens.Wasm

/-- A recursion group with the index of its first type. References inside the group are relative to
it, so that equal groups are equal wherever they stand. -/
structure RolledGroup where
  first : Nat
  types : List SubType
  deriving Repr, DecidableEq

structure Context where
  features : Features
  types : Array SubType := #[]
  /-- For every type the first type that equals it. -/
  canonical : Array Nat := #[]
  groups : List RolledGroup := []
  /-- The type indices of all functions, imported ones first. -/
  functions : Array Nat := #[]
  tables : Array TableType := #[]
  memories : Array MemoryType := #[]
  globals : Array GlobalType := #[]
  importedGlobals : Nat := 0
  /-- The element types of the element segments. -/
  elements : Array RefType := #[]
  /-- The type indices of all tags, imported ones first. -/
  tags : Array Nat := #[]
  dataCount : Option Nat := none
  dataSegments : Nat := 0
  /-- How many function bodies the function section asks for, until they are seen. -/
  bodiesDue : Option Nat := none
  /-- Functions that bodies may take references to. -/
  referable : List Nat := []
  /-- The place of the last section in the order of sections. -/
  place : Nat := 0

namespace Context

variable (c : Context)

/-! ## Looking things up -/

/-- The entry of an index space, or a fault that names the space. -/
def lookUp {α : Type} (space : Array α) (what : String) (index : Nat) : Except Fault α :=
  match space[index]? with
  | some x => .ok x
  | none => .error (.unknown what index)

def funcTypeAt (index : Nat) : Except Fault FuncType := do
  let t ← lookUp c.types "type" index
  match t.funcType? with
  | some f => return f
  | none => throw .typeMismatch

/-- The type of a function. -/
def typeOfFunction (func : Nat) : Except Fault FuncType := do
  c.funcTypeAt (← lookUp c.functions "function" func)

def tableAt (index : Nat) : Except Fault TableType := lookUp c.tables "table" index

def memoryAt (index : Nat) : Except Fault MemoryType := lookUp c.memories "memory" index

def globalAt (index : Nat) : Except Fault GlobalType := lookUp c.globals "global" index

def elementAt (index : Nat) : Except Fault RefType := lookUp c.elements "element segment" index

/-- A data segment is one of those that have been announced. -/
def checkDataSegment (segment : Nat) : Except Fault Unit :=
  match c.dataCount with
  | none => .error (.unknown "data count for segment" segment)
  | some count => if segment < count then .ok () else .error (.unknown "data segment" segment)

/-- The type of a block. -/
def blockTypeAt : BlockType → Except Fault FuncType
  | .empty => .ok ⟨[], []⟩
  | .value t => .ok ⟨[], [t]⟩
  | .func index => c.funcTypeAt index

end Context

/-- Refuses what a proposal brings unless it is enabled. -/
def require (enabled : Bool) (what : String) : Except Fault Unit :=
  if enabled then .ok () else .error (.disabled what)

/-- Refuses more of something than a limit allows. -/
def atMost (limit n : Nat) (what : String) : Except Fault Unit :=
  if n ≤ limit then .ok () else .error (.tooMany what)

end WasmLens.Wasm
