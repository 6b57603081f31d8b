import WasmLens.Machine.Image

/-!
# Instantiation

An instance is built on a store that already holds what the module imports. Imported globals are cells
anywhere in the store, which the instance is bound to in the order of its imports; an imported memory is
the first one of the store, as it is the first one of the module. What the module defines comes behind
that, in the index spaces as in the store. Whatever a failing instantiation has written stays written.
-/
namespace WasmLens.Machine

open Wasm

/-- Why a module cannot be instantiated. -/
inductive LinkFault where
  /-- There are more or fewer externs than imports. -/
  | importCount (expected found : Nat)
  /-- What an import is bound to is not of its type. -/
  | incompatibleImport (module name : String)
  /-- A memory of the module starts out larger than any memory may be. -/
  | memoryLimit (minimum : Nat)
  /-- Without bulk memory, a segment that does not fit keeps the module from being linked. -/
  | elementsDoNotFit
  | dataDoesNotFit
  deriving Repr, DecidableEq

def LinkFault.message : LinkFault → String
  | .importCount expected found =>
    "expected " ++ toString expected ++ " imports, found " ++ toString found
  | .incompatibleImport module name => "incompatible import type for `" ++ module ++ "::" ++ name ++ "`"
  | .memoryLimit minimum =>
    "memory minimum size of " ++ toString minimum ++ " pages exceeds memory limits"
  | .elementsDoNotFit => "table out of bounds: elements segment does not fit"
  | .dataDoesNotFit => "memory out of bounds: data segment does not fit"

/-- The outcome of an instantiation. -/
inductive Instantiation where
  | ready (store : Store)
  | unlinkable (store : Store) (cause : LinkFault)
  | trapped (store : Store) (cause : Trap)

/-! ## What is imported -/

/-- What an import of the module is bound to, by its place in the store. -/
inductive Extern where
  | memory (place : Nat)
  | global (cell : Nat)
  deriving Repr, DecidableEq

def Extern.cell? : Extern → Option Nat
  | .memory _ => none
  | .global cell => some cell

/-- Whether a memory is of the type that an import asks for: by now it is large enough, and it cannot
outgrow that type. No memory of a store is shared. -/
def LinearMemory.fits (m : LinearMemory) (t : MemoryType) : Bool :=
  m.is64 = t.is64 && !t.isShared && t.limits.minimum ≤ m.pages
    && t.limits.maximum.all fun most => m.declared.any (· ≤ most)

/-- Whether what is bound to an import is of its type. A global has to be of the same type. -/
def Extern.fits (s : Store) : Extern → ImportDesc → Bool
  | .memory place, .memory t => s.memories[place]?.any (·.fits t)
  | .global cell, .global t => s.globals[cell]?.any (·.type = t)
  | _, _ => false

/-- What is wrong with the externs that imports are bound to: their number, or the first that does not
fit. -/
def mismatch? (s : Store) (externs : List Extern) (imports : List Import) : Option LinkFault :=
  if externs.length ≠ imports.length then some (.importCount imports.length externs.length)
  else
    ((imports.zip externs).find? fun (i, e) => !e.fits s i.desc).map fun (i, _) =>
      .incompatibleImport i.module i.name

/-- Binds imported globals: the n-th of them is the n-th global of the instance. -/
def bind (s : Store) (externs : List Extern) : Store :=
  { s with bound := (externs.filterMap Extern.cell?).toArray }

/-! ## Constant expressions -/

/-- The value of a constant expression; `none` if it is none. -/
def constant? (s : Store) : ConstExpr → Option Val
  | [.const c] => some (Val.ofConst c)
  | [.refNull _] => some (.ref none)
  | [.refFunc func] => some (.ref (some func))
  | [.globalGet i] => s.global? i
  | _ => none

/-- The reference that a constant expression gives, null if it gives none. -/
def referenceOf (s : Store) (e : ConstExpr) : Option Nat :=
  match constant? s e with
  | some (.ref target) => target
  | _ => none

/-- The offset of a segment. -/
def offset? (s : Store) (e : ConstExpr) : Option Nat := (constant? s e).bind Val.index?

/-! ## Setting up the store -/

/-- The minimum of the first memory that is too large from the start. -/
def oversized? (limit : Option Nat) (memories : List MemoryType) : Option Nat :=
  (memories.find? fun m => !LinearMemory.canStart limit m.is64 m.limits.minimum).map (·.limits.minimum)

def memoryOf (t : MemoryType) : LinearMemory :=
  LinearMemory.ofLimits t.limits.minimum t.limits.maximum t.is64

/-- The cell of a global that the module defines. -/
def cellOf (s : Store) (g : Global) : Cell :=
  ((constant? s g.init).bind (Cell.ofVal? g.type)).getD (Cell.zero g.type)

/-- Adds a cell and makes it the next global of the instance. -/
def define (s : Store) (c : Cell) : Store :=
  { s with globals := s.globals.push c, bound := s.bound.push s.globals.size }

/-- Each global may be initialized from those before it. -/
def addGlobals (s : Store) : List Global → Store
  | [] => s
  | g :: rest => addGlobals (define s (cellOf s g)) rest

/-- A table filled with its initial value. -/
def tableOf (s : Store) (t : Wasm.Table) : Table :=
  let empty := Table.ofLimits 0 t.type.limits.maximum t.type.is64
  empty.grow t.type.limits.minimum (t.init.bind (referenceOf s))

/-- What an element segment holds. -/
def itemsOf (s : Store) (e : Element) : List (Option Nat) :=
  match e.items with
  | .functions indices => indices.map some
  | .expressions _ items => items.map (referenceOf s)

/-- The store with everything that the module defines, before any segment is copied. -/
def allocate (s : Store) (i : Image) : Store :=
  let s := addGlobals s i.globals
  { s with
    memories := s.memories ++ i.memories.map memoryOf
    tables := s.tables ++ i.tables.map (tableOf s)
    elements := (i.elements.map (itemsOf s)).toArray
    data := (i.data.map (·.bytes)).toArray }

/-! ## Segments -/

/-- Whether all element segments that are copied at once fit into their tables. -/
def elementsFit (s : Store) (i : Image) : Bool :=
  i.elements.all fun e =>
    match e.mode with
    | .active table offset =>
      (offset? s offset).any fun at_ => s.tableInBounds table at_ (itemsOf s e).length
    | _ => true

/-- Whether all data segments that are copied at once fit into their memories. -/
def dataFits (s : Store) (i : Image) : Bool :=
  i.data.all fun d =>
    match d.mode with
    | .active memory offset =>
      (offset? s offset).any fun at_ => s.memoryInBounds memory at_ d.bytes.length
    | _ => true

/-- Copies an element segment, if that is due at once, and drops it unless it is kept for later. -/
def placeElements (s : Store) (segment : Nat) (mode : SegmentMode) : Effect :=
  match mode with
  | .passive => .done s []
  | .declared => s.dropElements segment []
  | .active table offset =>
    match offset? s offset, s.elements[segment]? with
    | some at_, some items =>
      match s.tableInit segment table at_ 0 items.length [] with
      | .done s stack => s.dropElements segment stack
      | .trap s t => .trap s t
    | _, _ => .trap s .illTyped

/-- Copies a data segment, if that is due at once, and drops it unless it is kept for later. -/
def placeData (s : Store) (segment : Nat) (mode : SegmentMode) : Effect :=
  match mode with
  | .active memory offset =>
    match offset? s offset, s.data[segment]? with
    | some at_, some bytes =>
      match s.memoryInit segment memory at_ 0 bytes.length [] with
      | .done s stack => s.dropData segment stack
      | .trap s t => .trap s t
    | _, _ => .trap s .illTyped
  | _ => .done s []

/-- Places segments one after another, the first of them at index `segment`. -/
def placeAll (place : Store → Nat → SegmentMode → Effect) (s : Store) :
    (segment : Nat) → List SegmentMode → Effect
  | _, [] => .done s []
  | segment, mode :: modes =>
    match place s segment mode with
    | .done s _ => placeAll place s (segment + 1) modes
    | .trap s t => .trap s t

/-- Places all element segments, and then all data segments. -/
def placeSegments (s : Store) (i : Image) : Effect :=
  match placeAll placeElements s 0 (i.elements.map (·.mode)) with
  | .done s _ => placeAll placeData s 0 (i.data.map (·.mode))
  | .trap s t => .trap s t

/-! ## All of it -/

/-- Sets up an instance on a store that holds its imports, up to the call of its start function. -/
def prepare (s : Store) (externs : List Extern) (i : Image) (bulkMemory : Bool) : Instantiation :=
  match oversized? s.memoryLimit i.memories with
  | some minimum => .unlinkable s (.memoryLimit minimum)
  | none =>
    let s := allocate (bind s externs) i
    if !bulkMemory && !elementsFit s i then .unlinkable s .elementsDoNotFit
    else if !bulkMemory && !dataFits s i then .unlinkable s .dataDoesNotFit
    else
      match placeSegments s i with
      | .trap s t => .trapped s t
      | .done s _ => .ready s

/-- Runs the start function, if there is one. Nothing comes of one that never ends. -/
def runStart (p : Program) (s : Store) : Option Nat → Option Instantiation
  | none => some (.ready s)
  | some func =>
    match call p s func [] with
    | some (.returned s _) => some (.ready s)
    | some (.trapped s t) => some (.trapped s t)
    | none => none

/-- Instantiates an image on a store that holds its imports, which have to be of their types. There is no
outcome if the start function never ends. -/
def instantiate (s : Store) (externs : List Extern) (i : Image) (p : Program) (bulkMemory : Bool) :
    Option Instantiation :=
  match mismatch? s externs i.imports with
  | some fault => some (.unlinkable s fault)
  | none =>
    match prepare s externs i bulkMemory with
    | .ready s => runStart p s i.start
    | failed => some failed

end WasmLens.Machine
