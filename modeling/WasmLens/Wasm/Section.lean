import WasmLens.Wasm.Reader
import WasmLens.Wasm.Writer

/-!
# Sections

A module is a header and a sequence of sections, each an id and contents of a stated size. Splitting
goes as far as the bytes allow and says where and why it stopped, because what was found before is
checked before the fault behind it counts.
-/
namespace WasmLens.Wasm

/-- A section by its id and its contents. -/
structure Section where
  id : Nat
  contents : List UInt8
  deriving Repr, DecidableEq

/-- A section and the offset it stands at. -/
structure Placed where
  offset : Nat
  payload : Section
  deriving Repr, DecidableEq

/-- The sections of some bytes, and what cut them short, with its offset. -/
structure Sections where
  found : List Placed
  fault : Option (Nat × Fault)
  deriving Repr, DecidableEq

namespace Section

/-- Ids of the sections, in the numbering of the format. -/
def customId : Nat := 0
def typeId : Nat := 1
def importId : Nat := 2
def functionId : Nat := 3
def tableId : Nat := 4
def memoryId : Nat := 5
def globalId : Nat := 6
def exportId : Nat := 7
def startId : Nat := 8
def elementId : Nat := 9
def codeId : Nat := 10
def dataId : Nat := 11
def dataCountId : Nat := 12
def tagId : Nat := 13

/-- The magic number and the version. -/
def header : List UInt8 := [0x00, 0x61, 0x73, 0x6d, 0x01, 0x00, 0x00, 0x00]

/-- One section: an id below 128, a size and that many bytes. -/
def read : Reader Section := do
  let id ← Reader.byte
  if 128 ≤ id.toNat then Reader.fail (.malformed "section id")
  let size ← Reader.u32
  let contents ← Reader.take size
  return ⟨id.toNat, contents⟩

def write (s : Section) : List UInt8 := UInt8.ofNat s.id :: Writer.sized s.contents

end Section

namespace Sections

/-- Splits off sections until the bytes end or one of them does not read. -/
def splitFrom (offset : Nat) (bytes : List UInt8) : Sections :=
  match bytes with
  | [] => ⟨[], none⟩
  | b :: tail =>
    match Section.read (b :: tail) with
    | .error f => ⟨[], some (offset, f)⟩
    | .ok (s, rest) =>
      if rest.length < (b :: tail).length then
        let later := splitFrom (offset + ((b :: tail).length - rest.length)) rest
        ⟨⟨offset, s⟩ :: later.found, later.fault⟩
      else ⟨[], some (offset, .unexpectedEnd)⟩
termination_by bytes.length
decreasing_by assumption

/-- Splits the bytes of a module. -/
def split (bytes : List UInt8) : Sections :=
  if bytes.take Section.header.length = Section.header then
    splitFrom Section.header.length (bytes.drop Section.header.length)
  else ⟨[], some (0, .badHeader)⟩

/-- A module of the given sections. -/
def join (sections : List Section) : List UInt8 :=
  Section.header ++ sections.flatMap Section.write

end Sections

end WasmLens.Wasm
