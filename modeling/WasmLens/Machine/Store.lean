import WasmLens.Machine.Global
import WasmLens.Machine.Memory
import WasmLens.Machine.Table
import WasmLens.Machine.Trap
import WasmLens.Machine.Vector

/-!
# The store

Everything that calls can change and that outlives them. A host and an instance share the cells of
globals: `bound` says which of them the instance has as its own. Operators on the store either trap or
change it as a whole: all bounds are checked before anything is written.
-/
namespace WasmLens.Machine

open Wasm

structure Store where
  memories : Array LinearMemory := #[]
  /-- The cells of all globals, in the order in which they were created. -/
  globals : Array Cell := #[]
  /-- The place of the cell that is the n-th global of the instance. -/
  bound : Array Nat := #[]
  tables : Array Table := #[]
  /-- Element segments; one that was dropped is empty. -/
  elements : Array (List (Option Nat)) := #[]
  /-- Data segments; one that was dropped is empty. -/
  data : Array (List UInt8) := #[]
  /-- The most bytes any memory may have. -/
  memoryLimit : Option Nat := none

/-- What an operator does to the store and the stack. -/
inductive Effect where
  | done (store : Store) (stack : List Val)
  | trap (store : Store) (cause : Trap)

namespace Store

/-! ## Memories -/

/-- Leaves what some bytes of a memory, read as a number, are made into. -/
def load (s : Store) (arg : MemArg) (base bytes : Nat) (make : Nat → Val) (stack : List Val) : Effect :=
  match s.memories[arg.memory]? with
  | none => .trap s .illTyped
  | some m =>
    let address := base + arg.offset
    if m.buffer.inBounds address bytes then
      .done s (make (numberOf (m.buffer.slice address bytes)) :: stack)
    else .trap s .memoryOutOfBounds

/-- Writes bytes to a memory, if they fit. -/
def write (s : Store) (memory address : Nat) (bytes : List UInt8) (stack : List Val) : Effect :=
  match s.memories[memory]? with
  | none => .trap s .illTyped
  | some m =>
    if m.buffer.inBounds address bytes.length then
      .done { s with memories := s.memories.modify memory (·.write address bytes) } stack
    else .trap s .memoryOutOfBounds

def memorySize (s : Store) (memory : Nat) (stack : List Val) : Effect :=
  match s.memories[memory]? with
  | none => .trap s .illTyped
  | some m => .done s (Val.ofIndex m.is64 m.pages :: stack)

/-- Answers the former size, or that the growth was refused. -/
def memoryGrow (s : Store) (memory delta : Nat) (stack : List Val) : Effect :=
  match s.memories[memory]? with
  | none => .trap s .illTyped
  | some m =>
    let answer := if m.canGrow s.memoryLimit delta then Val.ofIndex m.is64 m.pages else Val.refused m.is64
    if m.canGrow s.memoryLimit delta then
      .done { s with memories := s.memories.modify memory (·.grow delta) } (answer :: stack)
    else .done s (answer :: stack)

/-- Whether some bytes lie in a memory. -/
def memoryInBounds (s : Store) (memory address length : Nat) : Bool :=
  s.memories[memory]?.any (·.buffer.inBounds address length)

def memoryFill (s : Store) (memory address : Nat) (byte : UInt8) (length : Nat) (stack : List Val) :
    Effect :=
  if s.memoryInBounds memory address length then
    s.write memory address (List.replicate length byte) stack
  else .trap s .memoryOutOfBounds

/-- The bytes are read before any is written, so the two places may overlap. -/
def memoryCopy (s : Store) (target source dest start length : Nat) (stack : List Val) : Effect :=
  if s.memoryInBounds target dest length && s.memoryInBounds source start length then
    match s.memories[source]? with
    | none => .trap s .illTyped
    | some m =>
      let bytes := m.buffer.slice start length
      s.write target dest bytes stack
  else .trap s .memoryOutOfBounds

def memoryInit (s : Store) (segment memory dest start length : Nat) (stack : List Val) : Effect :=
  match s.data[segment]? with
  | none => .trap s .illTyped
  | some bytes =>
    if start + length ≤ bytes.length && s.memoryInBounds memory dest length then
      s.write memory dest ((bytes.drop start).take length) stack
    else .trap s .memoryOutOfBounds

/-! ## Tables -/

def tableGet (s : Store) (table index : Nat) (stack : List Val) : Effect :=
  match s.tables[table]? with
  | none => .trap s .illTyped
  | some t =>
    if t.inBounds index 1 then .done s (.ref (t.entry index) :: stack) else .trap s .tableOutOfBounds

/-- Sets entries of a table, if they are there. -/
def tableWrite (s : Store) (table index : Nat) (targets : List (Option Nat)) (stack : List Val) :
    Effect :=
  match s.tables[table]? with
  | none => .trap s .illTyped
  | some t =>
    if t.inBounds index targets.length then
      .done { s with tables := s.tables.modify table (·.store index targets) } stack
    else .trap s .tableOutOfBounds

def tableSize (s : Store) (table : Nat) (stack : List Val) : Effect :=
  match s.tables[table]? with
  | none => .trap s .illTyped
  | some t => .done s (Val.ofIndex t.is64 t.size :: stack)

def tableGrow (s : Store) (table delta : Nat) (target : Option Nat) (stack : List Val) : Effect :=
  match s.tables[table]? with
  | none => .trap s .illTyped
  | some t =>
    let answer := if t.canGrow delta then Val.ofIndex t.is64 t.size else Val.refused t.is64
    if t.canGrow delta then
      .done { s with tables := s.tables.modify table (·.grow delta target) } (answer :: stack)
    else .done s (answer :: stack)

def tableInBounds (s : Store) (table index length : Nat) : Bool :=
  s.tables[table]?.any (·.inBounds index length)

def tableFill (s : Store) (table index : Nat) (target : Option Nat) (length : Nat) (stack : List Val) :
    Effect :=
  if s.tableInBounds table index length then
    s.tableWrite table index (List.replicate length target) stack
  else .trap s .tableOutOfBounds

def tableCopy (s : Store) (target source dest start length : Nat) (stack : List Val) : Effect :=
  if s.tableInBounds target dest length && s.tableInBounds source start length then
    match s.tables[source]? with
    | none => .trap s .illTyped
    | some t =>
      let entries := t.slice start length
      s.tableWrite target dest entries stack
  else .trap s .tableOutOfBounds

def tableInit (s : Store) (segment table dest start length : Nat) (stack : List Val) : Effect :=
  match s.elements[segment]? with
  | none => .trap s .illTyped
  | some entries =>
    if start + length ≤ entries.length && s.tableInBounds table dest length then
      s.tableWrite table dest ((entries.drop start).take length) stack
    else .trap s .tableOutOfBounds

/-! ## Globals and segments -/

/-- The cell that is a global of the instance. -/
def cell? (s : Store) (index : Nat) : Option Cell := s.bound[index]?.bind (s.globals[·]?)

/-- The value of a global of the instance. -/
def global? (s : Store) (index : Nat) : Option Val := (s.cell? index).map (·.value)

def setCell (s : Store) (place : Nat) (c : Cell) : Store :=
  { s with globals := s.globals.setIfInBounds place c }

def globalGet (s : Store) (index : Nat) (stack : List Val) : Effect :=
  match s.global? index with
  | none => .trap s .illTyped
  | some v => .done s (v :: stack)

def globalSet (s : Store) (index : Nat) (v : Val) (stack : List Val) : Effect :=
  match s.bound[index]?, (s.cell? index).bind (·.put? v) with
  | some place, some c => .done (s.setCell place c) stack
  | _, _ => .trap s .illTyped

def dropElements (s : Store) (segment : Nat) (stack : List Val) : Effect :=
  .done { s with elements := s.elements.modify segment fun _ => [] } stack

def dropData (s : Store) (segment : Nat) (stack : List Val) : Effect :=
  .done { s with data := s.data.modify segment fun _ => [] } stack

/-! ## Globals of a host -/

/-- Creates a cell, behind all others. -/
def newGlobal (s : Store) (type : GlobalType) (v : Val) : Except CellFault (Nat × Store) :=
  match Cell.ofVal? type v with
  | some c => .ok (s.globals.size, { s with globals := s.globals.push c })
  | none => .error .wrongSeed

/-- Creates a cell of the type of another one. -/
def newLike (s : Store) (place : Nat) (v : Val) : Except CellFault (Nat × Store) :=
  match s.globals[place]? with
  | some c => s.newGlobal c.type v
  | none => .error .foreign

/-- Writes to a cell from outside. -/
def setGlobal (s : Store) (place : Nat) (v : Val) : Except CellFault Store :=
  match s.globals[place]? with
  | some c => (c.set v).map (s.setCell place)
  | none => .error .foreign

/-! ## All operators on the store -/

/-- Runs an operator on indices, lengths and values from the stack. -/
def run (s : Store) (op : Operator) (stack : List Val) : Effect :=
  match op, stack with
  | .globalGet i, stack => s.globalGet i stack
  | .globalSet i, v :: stack => s.globalSet i v stack
  | .load a arg, base :: stack =>
    match base.index? with
    | some base => s.load arg base a.bytes (Val.ofAccess a) stack
    | none => .trap s .illTyped
  | .store a arg, v :: base :: stack =>
    match base.index?, v.number? with
    | some base, some n => s.write arg.memory (base + arg.offset) (bytesOf n a.bytes) stack
    | _, _ => .trap s .illTyped
  | .vectorLoad form arg, base :: stack =>
    match base.index? with
    | some base => s.load arg base form.bytes (fun n => .v128 (form.make n)) stack
    | none => .trap s .illTyped
  | .laneLoad lane i arg, .v128 v :: base :: stack =>
    match base.index? with
    | some base => s.load arg base lane.bytes (fun n => .v128 (setLane v i (BitVec.ofNat lane.bits n))) stack
    | none => .trap s .illTyped
  | .laneStore lane i arg, .v128 v :: base :: stack =>
    match base.index?, (lanesOf lane.bits v)[i]? with
    | some base, some x => s.write arg.memory (base + arg.offset) (bytesOf x.toNat lane.bytes) stack
    | _, _ => .trap s .illTyped
  | .memorySize m, stack => s.memorySize m stack
  | .memoryGrow m, delta :: stack =>
    match delta.index? with
    | some delta => s.memoryGrow m delta stack
    | none => .trap s .illTyped
  | .memoryFill m, length :: byte :: dest :: stack =>
    match length.index?, byte.index?, dest.index? with
    | some length, some byte, some dest => s.memoryFill m dest (UInt8.ofNat byte) length stack
    | _, _, _ => .trap s .illTyped
  | .memoryCopy target source, length :: start :: dest :: stack =>
    match length.index?, start.index?, dest.index? with
    | some length, some start, some dest => s.memoryCopy target source dest start length stack
    | _, _, _ => .trap s .illTyped
  | .memoryInit segment m, length :: start :: dest :: stack =>
    match length.index?, start.index?, dest.index? with
    | some length, some start, some dest => s.memoryInit segment m dest start length stack
    | _, _, _ => .trap s .illTyped
  | .dataDrop segment, stack => s.dropData segment stack
  | .tableGet t, index :: stack =>
    match index.index? with
    | some index => s.tableGet t index stack
    | none => .trap s .illTyped
  | .tableSet t, .ref target :: index :: stack =>
    match index.index? with
    | some index => s.tableWrite t index [target] stack
    | none => .trap s .illTyped
  | .tableSize t, stack => s.tableSize t stack
  | .tableGrow t, delta :: .ref target :: stack =>
    match delta.index? with
    | some delta => s.tableGrow t delta target stack
    | none => .trap s .illTyped
  | .tableFill t, length :: .ref target :: index :: stack =>
    match length.index?, index.index? with
    | some length, some index => s.tableFill t index target length stack
    | _, _ => .trap s .illTyped
  | .tableCopy target source, length :: start :: dest :: stack =>
    match length.index?, start.index?, dest.index? with
    | some length, some start, some dest => s.tableCopy target source dest start length stack
    | _, _, _ => .trap s .illTyped
  | .tableInit segment t, length :: start :: dest :: stack =>
    match length.index?, start.index?, dest.index? with
    | some length, some start, some dest => s.tableInit segment t dest start length stack
    | _, _, _ => .trap s .illTyped
  | .elemDrop segment, stack => s.dropElements segment stack
  | _, _ => .trap s .illTyped

end Store

end WasmLens.Machine
