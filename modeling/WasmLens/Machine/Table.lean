import Std.Data.HashMap
import WasmLens.Machine.Val

/-!
# Tables

The tables of an instance: references by their index. Only entries that are not null are stored.
-/
namespace WasmLens.Machine

structure Table where
  size : Nat
  functions : Std.HashMap Nat Nat
  /-- The most entries it may grow to. -/
  maximum : Nat
  is64 : Bool

namespace Table

/-- The most entries that indices of 32 bits reach, whatever the table asks for. -/
def maxEntries : Nat := twoTo 32 - 1

/-- A table of nulls. -/
def ofLimits (minimum : Nat) (maximum : Option Nat) (is64 : Bool) : Table :=
  ⟨minimum, ∅, (maximum.map (min maxEntries)).getD maxEntries, is64⟩

variable (t : Table)

def inBounds (index length : Nat) : Bool := index + length ≤ t.size

/-- The entry at an index, whatever the size. -/
def entry (index : Nat) : Option Nat := t.functions[index]?

/-- Entries of `length` indices from `index` on. -/
def slice (t : Table) (index : Nat) : (length : Nat) → List (Option Nat)
  | 0 => []
  | length + 1 => t.entry index :: slice t (index + 1) length

/-- Sets an entry that is known to be there. -/
def set (index : Nat) (target : Option Nat) : Table :=
  { t with
    functions := match target with
      | some f => t.functions.insert index f
      | none => t.functions.erase index }

/-- Sets entries one after another. -/
def store (t : Table) (index : Nat) : List (Option Nat) → Table
  | [] => t
  | target :: targets => store (t.set index target) (index + 1) targets

/-- Whether a table may get `delta` more entries. -/
def canGrow (delta : Nat) : Bool := t.size + delta ≤ t.maximum

/-- Adds entries that all hold the same. -/
def grow (delta : Nat) (target : Option Nat) : Table :=
  let grown := { t with size := t.size + delta }
  if target.isNone then grown else grown.store t.size (List.replicate delta target)

end Table

end WasmLens.Machine
