import WasmLens.Proofs.Wasm.Reader
import WasmLens.Wasm.Decode.Content

/-!
# What sections read as

The key theorem is `ofSection_ok_iff`: a section reads as some contents **exactly if** its id is the one of
such contents and its bytes, taken as a whole, are read by their reader (`Reads`). Everything else that
is known of a section that reads is drawn from it.
-/
namespace WasmLens.Wasm

/-- A count and then the items is what items are read from. -/
theorem Decode.items_ok_iff {α : Type} {item : Reader α} {bytes rest : List UInt8} {xs : List α} :
    items item bytes = .ok (xs, rest) ↔
      ∃ count between, Reader.u32 bytes = .ok (count, between) ∧
        Reader.vector item count between = .ok (xs, rest) :=
  Reader.bind_ok_iff

namespace Content

variable {f : Features} {s : Section}

/-- The id of the sections with such contents. -/
def id : Content → Nat
  | .custom .. => Section.customId
  | .types _ => Section.typeId
  | .imports _ => Section.importId
  | .functions _ => Section.functionId
  | .tables _ => Section.tableId
  | .memories _ => Section.memoryId
  | .tags _ => Section.tagId
  | .globals _ => Section.globalId
  | .exports _ => Section.exportId
  | .start _ => Section.startId
  | .elements _ => Section.elementId
  | .dataCount _ => Section.dataCountId
  | .code _ => Section.codeId
  | .data _ => Section.dataId

/-- Bytes read as contents. Only a custom section has bytes that are not looked into. -/
def Reads (f : Features) (bytes : List UInt8) : Content → Prop
  | .custom name rest => Reader.text bytes = .ok (name, rest)
  | .types groups => Decode.items Decode.recGroup bytes = .ok (groups, [])
  | .imports items => Decode.items Decode.importItem bytes = .ok (items, [])
  | .functions indices => Decode.items Reader.u32 bytes = .ok (indices, [])
  | .tables items => Decode.items (Decode.tableItem f) bytes = .ok (items, [])
  | .memories items => Decode.items Decode.memoryType bytes = .ok (items, [])
  | .tags indices => Decode.items (do let _ ← Decode.zeroByte; Reader.u32) bytes = .ok (indices, [])
  | .globals items => Decode.items (Decode.globalItem f) bytes = .ok (items, [])
  | .exports items => Decode.items Decode.exportItem bytes = .ok (items, [])
  | .start func => Reader.u32 bytes = .ok (func, [])
  | .elements items => Decode.items (Decode.elementItem f) bytes = .ok (items, [])
  | .dataCount count => Reader.u32 bytes = .ok (count, [])
  | .code bodies => Decode.items (Decode.sizedBody f) bytes = .ok (bodies, [])
  | .data segments => Decode.items (Decode.dataItem f) bytes = .ok (segments, [])

/-- **Reading a section**, taken apart by the kind of its contents. -/
theorem ofSection_ok_iff {content : Content} :
    ofSection f s = .ok content ↔ s.id = content.id ∧ content.Reads f s.contents := by
  constructor
  · intro h
    simp only [ofSection, ite_eq_ok_iff, map_eq_ok_iff, Reader.runOn_ok_iff] at h
    rcases h with ⟨id, ⟨name, rest⟩, read, rfl⟩ | ⟨-, h⟩
    · exact ⟨id, read⟩
    iterate 13
      rcases h with ⟨id, _, read, rfl⟩ | ⟨-, h⟩
      · exact ⟨id, read⟩
    cases h
  · rintro ⟨id, reads⟩
    obtain ⟨n, bytes⟩ := s
    simp only at id reads
    cases content <;> subst id <;> simp only [ofSection, Content.id] <;>
      simp [Section.customId, Section.typeId, Section.importId, Section.functionId,
        Section.tableId, Section.memoryId, Section.tagId, Section.globalId, Section.exportId,
        Section.startId, Section.elementId, Section.dataCountId, Section.codeId, Section.dataId,
        map_eq_ok_iff, Reader.runOn_ok_iff] <;> exact reads

end Content

end WasmLens.Wasm
