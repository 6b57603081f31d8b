import WasmLens.Machine.Val

/-!
# Globals

A global is a cell that a host and a module can share: what one of them writes the other one reads. A
cell has a type and always holds a value of it. Writes of a module have been validated, so they only have
to be of that type; a host that writes is told when the cell is immutable.
-/
namespace WasmLens.Machine

structure Cell where
  type : Wasm.GlobalType
  value : Val
  typed : value.hasType type.content
  deriving DecidableEq

/-- Why a host cannot create a cell, or cannot write to it. -/
inductive CellFault where
  | immutable
  | wrongSeed
  | wrongValue
  /-- There is no such cell in the store. -/
  | foreign
  deriving Repr, DecidableEq

def CellFault.message : CellFault → String
  | .immutable => "immutable global cannot be set"
  | .wrongSeed => "type mismatch: initial value provided does not match the type of this global"
  | .wrongValue => "type mismatch: attempt to set global to value of wrong type"
  | .foreign => "object used with the wrong store"

namespace Cell

/-- A cell that starts out with a value, if the value is of its type. -/
def ofVal? (type : Wasm.GlobalType) (v : Val) : Option Cell :=
  if typed : v.hasType type.content then some ⟨type, v, typed⟩ else none

/-- A cell that starts out with the zero of its type. -/
def zero (type : Wasm.GlobalType) : Cell := ⟨type, Val.zero type.content, Val.hasType_zero _⟩

/-- The cell with another value, if the value is of its type. -/
def put? (c : Cell) (v : Val) : Option Cell := ofVal? c.type v

/-- What a host writes. -/
def set (c : Cell) (v : Val) : Except CellFault Cell :=
  if !c.type.isMutable then .error .immutable
  else
    match c.put? v with
    | some c => .ok c
    | none => .error .wrongValue

end Cell

end WasmLens.Machine
