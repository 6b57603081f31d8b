import WasmLens.Machine.Store

/-!
# What operators do to the store

`Store.Changes` lists **all that one operator can do to a store**, with what has to hold for it, and
`Store.run_changes` shows that the list is complete. What operators keep is read off the list from then
on. Only `global.set` writes to the cell of a global, only `memory.grow` changes the size of a memory, and
no operator changes what the instance is bound to: all others leave the store `Alike`.
-/
namespace WasmLens.Machine

open Wasm

/-- The store behind an operator, whether it has trapped or not. -/
def Effect.store : Effect → Store
  | .done s _ | .trap s _ => s

/-! ## The width of a table -/

@[simp] theorem Table.is64_store : ∀ (t : Table) (index : Nat) (targets : List (Option Nat)),
    (t.store index targets).is64 = t.is64
  | _, _, [] => rfl
  | t, index, target :: targets => is64_store (t.set index target) (index + 1) targets

@[simp] theorem Table.is64_grow (t : Table) (delta : Nat) (target : Option Nat) :
    (t.grow delta target).is64 = t.is64 := by
  unfold grow
  dsimp only
  split
  · rfl
  · exact is64_store _ _ _

/-- Whatever becomes of a table that keeps its width, all tables keep theirs. -/
theorem Table.map_is64_modify {tables : Array Table} {f : Table → Table} (same : ∀ t, (f t).is64 = t.is64)
    (index : Nat) : (tables.modify index f).map is64 = tables.map is64 := by
  refine Array.ext_getElem? fun i => ?_
  simp only [Array.getElem?_map, Array.getElem?_modify]
  split
  · rw [Option.map_map, show is64 ∘ f = is64 from funext same]
  · rfl

namespace Store

/-- All that an operator can do to a store. -/
inductive Changes (s : Store) : Operator → Store → Prop where
  | nothing {op : Operator} : Changes s op s
  | writes {op : Operator} {memory address : Nat} {bytes : List UInt8} {m : LinearMemory}
      (found : s.memories[memory]? = some m) (fits : m.buffer.inBounds address bytes.length) :
      Changes s op { s with memories := s.memories.modify memory (·.write address bytes) }
  | grows {memory delta : Nat} {m : LinearMemory} (found : s.memories[memory]? = some m)
      (can : m.canGrow s.memoryLimit delta) :
      Changes s (.memoryGrow memory) { s with memories := s.memories.modify memory (·.grow delta) }
  | sets {index place : Nat} {v : Val} {c c' : Cell} (bound : s.bound[index]? = some place)
      (found : s.globals[place]? = some c) (put : c.put? v = some c') :
      Changes s (.globalSet index) (s.setCell place c')
  | tables {op : Operator} (tables : Array Table) (widths : tables.map Table.is64 = s.tables.map Table.is64) :
      Changes s op { s with tables }
  | elements {op : Operator} (elements : Array (List (Option Nat))) : Changes s op { s with elements }
  | data {op : Operator} (data : Array (List UInt8)) : Changes s op { s with data }

variable (s : Store) (stack : List Val)

/-! ## One operator after another -/

theorem load_changes (op : Operator) (arg : MemArg) (base bytes : Nat) (make : Nat → Val) :
    s.Changes op (s.load arg base bytes make stack).store := by
  unfold load
  split
  · exact .nothing
  · dsimp only
    split <;> exact .nothing

theorem write_changes (op : Operator) (memory address : Nat) (bytes : List UInt8) :
    s.Changes op (s.write memory address bytes stack).store := by
  unfold write
  split
  · exact .nothing
  · rename_i found
    split
    · rename_i fits
      exact .writes found fits
    · exact .nothing

theorem memorySize_changes (op : Operator) (memory : Nat) :
    s.Changes op (s.memorySize memory stack).store := by
  unfold memorySize
  split <;> exact .nothing

theorem memoryGrow_changes (memory delta : Nat) :
    s.Changes (.memoryGrow memory) (s.memoryGrow memory delta stack).store := by
  unfold memoryGrow
  split
  · exact .nothing
  · rename_i found
    dsimp only
    split
    · rename_i can
      exact .grows found can
    · exact .nothing

theorem memoryFill_changes (op : Operator) (memory address : Nat) (byte : UInt8) (length : Nat) :
    s.Changes op (s.memoryFill memory address byte length stack).store := by
  unfold memoryFill
  split
  · exact write_changes ..
  · exact .nothing

theorem memoryCopy_changes (op : Operator) (target source dest start length : Nat) :
    s.Changes op (s.memoryCopy target source dest start length stack).store := by
  unfold memoryCopy
  split
  · split
    · exact .nothing
    · exact write_changes ..
  · exact .nothing

theorem memoryInit_changes (op : Operator) (segment memory dest start length : Nat) :
    s.Changes op (s.memoryInit segment memory dest start length stack).store := by
  unfold memoryInit
  split
  · exact .nothing
  · split
    · exact write_changes ..
    · exact .nothing

theorem tableGet_changes (op : Operator) (table index : Nat) :
    s.Changes op (s.tableGet table index stack).store := by
  unfold tableGet
  split
  · exact .nothing
  · split <;> exact .nothing

theorem tableWrite_changes (op : Operator) (table index : Nat) (targets : List (Option Nat)) :
    s.Changes op (s.tableWrite table index targets stack).store := by
  unfold tableWrite
  split
  · exact .nothing
  · split
    · exact .tables _ (Table.map_is64_modify (fun t => t.is64_store index targets) table)
    · exact .nothing

theorem tableSize_changes (op : Operator) (table : Nat) :
    s.Changes op (s.tableSize table stack).store := by
  unfold tableSize
  split <;> exact .nothing

theorem tableGrow_changes (op : Operator) (table delta : Nat) (target : Option Nat) :
    s.Changes op (s.tableGrow table delta target stack).store := by
  unfold tableGrow
  split
  · exact .nothing
  · dsimp only
    split
    · exact .tables _ (Table.map_is64_modify (fun t => t.is64_grow delta target) table)
    · exact .nothing

theorem tableFill_changes (op : Operator) (table index : Nat) (target : Option Nat) (length : Nat) :
    s.Changes op (s.tableFill table index target length stack).store := by
  unfold tableFill
  split
  · exact tableWrite_changes ..
  · exact .nothing

theorem tableCopy_changes (op : Operator) (target source dest start length : Nat) :
    s.Changes op (s.tableCopy target source dest start length stack).store := by
  unfold tableCopy
  split
  · split
    · exact .nothing
    · exact tableWrite_changes ..
  · exact .nothing

theorem tableInit_changes (op : Operator) (segment table dest start length : Nat) :
    s.Changes op (s.tableInit segment table dest start length stack).store := by
  unfold tableInit
  split
  · exact .nothing
  · split
    · exact tableWrite_changes ..
    · exact .nothing

theorem globalGet_changes (op : Operator) (index : Nat) :
    s.Changes op (s.globalGet index stack).store := by
  unfold globalGet
  split <;> exact .nothing

theorem globalSet_changes (index : Nat) (v : Val) :
    s.Changes (.globalSet index) (s.globalSet index v stack).store := by
  unfold globalSet
  split
  · rename_i place c bound put
    obtain ⟨c', found, put⟩ := Option.bind_eq_some_iff.1 put
    rw [cell?, bound, Option.bind_some] at found
    exact .sets bound found put
  · exact .nothing

/-- **Everything an operator does to the store is in the list.** -/
theorem run_changes (op : Operator) : s.Changes op (s.run op stack).store := by
  unfold run
  split
  case h_1 => exact globalGet_changes ..
  case h_2 => exact globalSet_changes ..
  case h_8 => exact memorySize_changes ..
  case h_13 => exact .data _
  case h_16 => exact tableSize_changes ..
  case h_21 => exact .elements _
  case h_22 => exact .nothing
  all_goals
    split
    · first
      | exact load_changes ..
      | exact write_changes ..
      | exact memoryGrow_changes ..
      | exact memoryFill_changes ..
      | exact memoryCopy_changes ..
      | exact memoryInit_changes ..
      | exact tableGet_changes ..
      | exact tableWrite_changes ..
      | exact tableGrow_changes ..
      | exact tableFill_changes ..
      | exact tableCopy_changes ..
      | exact tableInit_changes ..
    · exact .nothing

/-! ## Stores that differ in contents only -/

end Store

/-- What `memory.grow` can change of a memory, and what it cannot. -/
def LinearMemory.extent (m : LinearMemory) : Nat × Nat × Bool := (m.pages, m.maximum, m.is64)

@[simp] theorem LinearMemory.pages_write (m : LinearMemory) (address : Nat) (bytes : List UInt8) :
    (m.write address bytes).pages = m.pages := by
  rw [pages, pages, write, Memory.Buffer.pages, Memory.Buffer.pages, Memory.Buffer.store_size]

@[simp] theorem LinearMemory.extent_write (m : LinearMemory) (address : Nat) (bytes : List UInt8) :
    (m.write address bytes).extent = m.extent := by
  rw [extent, extent, pages_write]
  rfl

namespace Store

/-- Stores that differ at most in what their memories, tables and segments hold. -/
structure Alike (s s' : Store) : Prop where
  globals : s'.globals = s.globals
  bound : s'.bound = s.bound
  memoryLimit : s'.memoryLimit = s.memoryLimit
  extents : s'.memories.map LinearMemory.extent = s.memories.map LinearMemory.extent
  widths : s'.tables.map Table.is64 = s.tables.map Table.is64

theorem Alike.refl (s : Store) : s.Alike s := ⟨rfl, rfl, rfl, rfl, rfl⟩

theorem Alike.trans {s s' s'' : Store} (h : s.Alike s') (h' : s'.Alike s'') : s.Alike s'' :=
  ⟨h'.globals.trans h.globals, h'.bound.trans h.bound, h'.memoryLimit.trans h.memoryLimit,
    h'.extents.trans h.extents, h'.widths.trans h.widths⟩

variable {s s' : Store} {op : Operator}

/-- **An operator that neither sets a global nor grows a memory** changes contents only. -/
theorem Changes.alike (h : s.Changes op s') (noSet : ∀ index, op ≠ .globalSet index)
    (noGrow : ∀ memory, op ≠ .memoryGrow memory) : s.Alike s' := by
  cases h with
  | nothing | elements | data => exact ⟨rfl, rfl, rfl, rfl, rfl⟩
  | tables _ widths => exact ⟨rfl, rfl, rfl, rfl, widths⟩
  | @writes _ memory address bytes =>
    have same : LinearMemory.extent ∘ (·.write address bytes) = LinearMemory.extent :=
      funext fun m => m.extent_write address bytes
    refine ⟨rfl, rfl, rfl, Array.ext_getElem? fun i => ?_, rfl⟩
    simp only [Array.getElem?_map, Array.getElem?_modify]
    split
    · rw [Option.map_map, same]
    · rfl
  | grows => exact absurd rfl (noGrow _)
  | sets => exact absurd rfl (noSet _)

/-- No operator changes which cells the instance is bound to. -/
theorem Changes.bound (h : s.Changes op s') : s'.bound = s.bound := by
  cases h <;> rfl

theorem Changes.memoryLimit (h : s.Changes op s') : s'.memoryLimit = s.memoryLimit := by
  cases h <;> rfl

/-- No operator changes which indices a table takes. -/
theorem Changes.widths (h : s.Changes op s') : s'.tables.map Table.is64 = s.tables.map Table.is64 := by
  cases h with
  | tables _ widths => exact widths
  | nothing | writes | grows | sets | elements | data => rfl

end Store

end WasmLens.Machine
