import WasmLens.Module.Outline
import WasmLens.Wasm.Decode.Content
import WasmLens.Wasm.Section

/-!
# Exporting a module's memory

An engine hands out only memories that are imported or exported. A module that keeps its first memory
to itself is written again with one more export. The export section is written anew, or put in at its
place in the order of sections; the contents of all others are copied.
-/
namespace WasmLens.MemoryExport

open Wasm

/-- The name of the added export, as long as the module does not use it itself. -/
def baseName : String := "__wasm_reflect_memory"

/-- The exports that a name can still clash with when more is put behind it: their names are no shorter. -/
def rivals (o : Outline) (name : String) : List ModuleExport :=
  o.exports.filter (name.length ≤ ·.name.length)

/-- With one more character a name keeps only the rivals whose names are longer than it was. -/
theorem rivals_push (o : Outline) (name : String) (c : Char) :
    rivals o (name.push c) = (rivals o name).filter (name.length < ·.name.length) := by
  simp only [rivals, List.filter_filter, String.length_push]
  refine List.filter_congr fun e _ => ?_
  rw [← Bool.decide_and]
  exact decide_eq_decide.2 (by omega)

theorem length_rivals_push_lt {o : Outline} {name : String} (taken : o.exportsName name) (c : Char) :
    (rivals o (name.push c)).length < (rivals o name).length := by
  obtain ⟨e, mem, same⟩ := List.any_eq_true.1 taken
  obtain rfl := of_decide_eq_true same
  rw [rivals_push, List.length_filter_lt_length_iff_exists]
  exact ⟨e, by simp [rivals, mem], by simp⟩

/-- Puts underscores behind a name until it is not exported. The export that has the name is no rival of it
any more once it has grown. -/
def freeName (o : Outline) (name : String) : String :=
  if o.exportsName name then freeName o (name.push '_') else name
termination_by (rivals o name).length
decreasing_by exact length_rivals_push_lt ‹_› '_'

/-- A name that the module does not export. -/
def reservedName (o : Outline) : String := freeName o baseName

/-! ## Writing exports -/

def kindByte : ExportKind → UInt8
  | .func => 0x00
  | .table => 0x01
  | .memory => 0x02
  | .global => 0x03
  | .tag => 0x04

def writeExport (e : Export) : List UInt8 :=
  Writer.text e.name ++ kindByte e.kind :: Writer.unsigned e.index

def exportSection (exports : List Export) : Section :=
  ⟨Section.exportId, Writer.unsigned exports.length ++ exports.flatMap writeExport⟩

/-- The first memory under a name. -/
def firstMemory (name : String) : Export := ⟨name, .memory, 0⟩

/-! ## Adding the export -/

/-- Whether a section must come after the exports. -/
def followsExports (id : Nat) : Bool :=
  id = Section.startId || id = Section.elementId || id = Section.dataCountId || id = Section.codeId
    || id = Section.dataId

/-- A count, and as many items of a stated size each. -/
def sizedItems : Reader Unit := do
  let _ ← Reader.vector (do Reader.take (← Reader.u32)) (← Reader.u32)

/-- Whether a section can be told apart from what stands in it: a name, a number, or a count. -/
def checkHead (s : Section) : Except Fault Unit :=
  if s.id = Section.customId then (Reader.text s.contents).map fun _ => ()
  else if s.id = Section.startId ∨ s.id = Section.dataCountId then
    (Reader.u32.runOn "section" s.contents).map fun _ => ()
  else if s.id = Section.codeId then sizedItems.runOn "code section" s.contents
  else if s.id ≤ Section.tagId then (Reader.u32 s.contents).map fun _ => ()
  else .ok ()

/-- Adds the export to sections: to every export section, or else before the first section that must
come after it, or else at the end. -/
def insertExport (name : String) : (exported : Bool) → List Section → Except Fault (List Section)
  | exported, [] => .ok (if exported then [] else [exportSection [firstMemory name]])
  | exported, s :: rest => do
    checkHead s
    if s.id = Section.exportId then
      let exports ← (Decode.items Decode.exportItem).runOn "export section" s.contents
      return exportSection (exports ++ [firstMemory name]) :: (← insertExport name true rest)
    else if !exported && followsExports s.id then
      return exportSection [firstMemory name] :: s :: (← insertExport name true rest)
    else return s :: (← insertExport name exported rest)

/-- The bytes of a module with its first memory exported under a name. -/
def exportMemory (bytes : List UInt8) (name : String) : Except Fault (List UInt8) :=
  let sections := Sections.split bytes
  match insertExport name false (sections.found.map (·.payload)), sections.fault with
  | .ok sections, none => .ok (Sections.join sections)
  | .ok _, some (_, fault) => .error fault
  | .error fault, _ => .error fault

end WasmLens.MemoryExport
