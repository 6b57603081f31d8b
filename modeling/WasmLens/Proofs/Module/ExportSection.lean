import WasmLens.Module.MemoryExport
import WasmLens.Proofs.Wasm.Content
import WasmLens.Proofs.Wasm.Section

/-!
# Writing exports

A section of exports reads back as these exports **exactly if every name is one that readers accept**
(`ofSection_exportSection_iff`): writing has no limit on the length of a name, reading has one. The exports
of a section that was read have such names (`fits_of_exports`), so they can be written again.
-/
namespace WasmLens.MemoryExport

open Wasm

/-- An export that has a written form which is read again. -/
structure Fits (e : Export) : Prop where
  name_le : e.name.utf8ByteSize ≤ Reader.maxTextSize
  index_lt : e.index < twoTo 32

theorem exportKind_write (kind : ExportKind) (rest : List UInt8) :
    Decode.exportKind (kindByte kind :: rest) = .ok (kind, rest) := by
  cases kind <;> rfl

/-- **An export reads back.** -/
theorem exportItem_write {e : Export} (fits : Fits e) (rest : List UInt8) :
    Decode.exportItem (writeExport e ++ rest) = .ok (e, rest) := by
  rw [writeExport, List.append_assoc, List.cons_append, Decode.exportItem,
    Reader.bind_of_ok (Reader.text_write fits.name_le), Reader.bind_of_ok (exportKind_write _ _),
    Reader.bind_of_ok (Reader.u32_write _ fits.index_lt)]
  rfl

theorem exportItem_fits {bytes rest : List UInt8} {e : Export}
    (h : Decode.exportItem bytes = .ok (e, rest)) : Fits e := by
  simp only [Decode.exportItem, Reader.bind_ok_iff, Reader.pure_ok_iff] at h
  obtain ⟨name, _, nameRead, kind, _, _, index, _, indexRead, rfl, _⟩ := h
  exact ⟨(Reader.text_ok_iff.1 nameRead).1, Reader.unsigned_lt indexRead⟩

/-- A written export is only read if it can be read again. -/
theorem fits_of_written {e : Export} (index_lt : e.index < twoTo 32) (size_lt : e.name.utf8ByteSize < twoTo 32)
    {rest : List UInt8} {r : Export × List UInt8} (h : Decode.exportItem (writeExport e ++ rest) = .ok r) :
    Fits e := by
  obtain ⟨e', rest'⟩ := r
  simp only [Decode.exportItem, Reader.bind_ok_iff] at h
  obtain ⟨name, _, nameRead, _⟩ := h
  obtain ⟨le, size⟩ := Reader.text_ok_iff.1 nameRead
  -- the size that is read is the one that was written
  rw [writeExport, Writer.text, Writer.sized, List.append_assoc, List.append_assoc, Reader.length_toUTF8,
    Reader.u32_write _ size_lt] at size
  obtain ⟨same, _⟩ := Prod.mk.inj (Except.ok.inj size)
  exact ⟨same ▸ le, index_lt⟩

/-- Written exports are only read if all of them can be read again. -/
theorem fits_of_vector : ∀ {exports : List Export} {r : List Export × List UInt8},
    (∀ e ∈ exports, e.index < twoTo 32 ∧ e.name.utf8ByteSize < twoTo 32) →
      Reader.vector Decode.exportItem exports.length (exports.flatMap writeExport) = .ok r → ∀ e ∈ exports, Fits e
  | [], _, _, _ => nofun
  | e :: exports, (_, _), bounds, h => by
    obtain ⟨⟨index_lt, size_lt⟩, bounds⟩ := List.forall_mem_cons.1 bounds
    simp only [List.length_cons, Reader.vector, Reader.bind_ok_iff, List.flatMap_cons] at h
    obtain ⟨_, _, first, _, _, others, _⟩ := h
    have fits := fits_of_written index_lt size_lt first
    cases (exportItem_write fits _).symm.trans first
    exact List.forall_mem_cons.2 ⟨fits, fits_of_vector bounds others⟩

theorem exports_le_size (exports : List Export) :
    exports.length ≤ (exportSection exports).contents.length := by
  have each : exports.length ≤ (exports.flatMap writeExport).length := by
    induction exports with
    | nil => simp
    | cons e exports ih =>
      have : 1 ≤ (writeExport e).length := by
        simp only [writeExport, List.length_append, List.length_cons]
        omega
      simp only [List.flatMap_cons, List.length_append, List.length_cons]
      omega
  simp only [exportSection, List.length_append]
  omega

variable {exports : List Export}

/-- Exports are counted and then read one after another. -/
theorem items_exportSection (room : (exportSection exports).contents.length < twoTo 32) :
    Decode.items Decode.exportItem (exportSection exports).contents =
      Reader.vector Decode.exportItem exports.length (exports.flatMap writeExport) :=
  Reader.bind_of_ok (Reader.u32_write _ (Nat.lt_of_le_of_lt (exports_le_size exports) room))

/-- **A section of exports reads back** exactly if all of them can be read again. -/
theorem ofSection_exportSection_iff {f : Features} (indices : ∀ e ∈ exports, e.index < twoTo 32)
    (room : (exportSection exports).contents.length < twoTo 32) :
    Content.ofSection f (exportSection exports) = .ok (.exports exports) ↔
      ∀ e ∈ exports, e.name.utf8ByteSize ≤ Reader.maxTextSize := by
  rw [Content.ofSection_ok_iff]
  show _ ∧ Decode.items _ _ = _ ↔ _
  rw [items_exportSection room]
  constructor
  · rintro ⟨_, read⟩ e mem
    exact ((Reader.vector_forall (fun _ _ _ => exportItem_fits) read).2 e mem).name_le
  · intro names
    refine ⟨rfl, ?_⟩
    have := Reader.vector_write Decode.exportItem writeExport []
      fun e mem => exportItem_write ⟨names e mem, indices e mem⟩
    rwa [List.append_nil] at this

/-- A section has room for the names of its exports. -/
theorem name_lt_of_room (room : (exportSection exports).contents.length < twoTo 32) :
    ∀ e ∈ exports, e.name.utf8ByteSize < twoTo 32 := by
  intro e mem
  obtain ⟨front, back, rfl⟩ := List.append_of_mem mem
  simp only [exportSection, List.flatMap_append, List.flatMap_cons, writeExport, Writer.text, Writer.sized,
    List.length_append, Reader.length_toUTF8] at room
  omega

/-- **A section of exports reads back or not at all.** -/
theorem eq_of_ofSection_exportSection {f : Features} {content : Content}
    (indices : ∀ e ∈ exports, e.index < twoTo 32) (room : (exportSection exports).contents.length < twoTo 32)
    (h : Content.ofSection f (exportSection exports) = .ok content) : content = .exports exports := by
  have fits : ∀ e ∈ exports, Fits e := by
    obtain ⟨id, reads⟩ := Content.ofSection_ok_iff.1 h
    cases content <;> cases id
    rename_i items
    have read : Decode.items Decode.exportItem (exportSection exports).contents = .ok (items, []) := reads
    rw [items_exportSection room] at read
    exact fits_of_vector (fun e mem => ⟨indices e mem, name_lt_of_room room e mem⟩) read
  exact Except.ok.inj (h.symm.trans ((ofSection_exportSection_iff indices room).2 fun e mem => (fits e mem).name_le))

/-- The exports of a section that was read can be written again. -/
theorem fits_of_exports {f : Features} {s : Section} (h : Content.ofSection f s = .ok (.exports exports)) :
    ∀ e ∈ exports, Fits e := by
  obtain ⟨_, items⟩ := Content.ofSection_ok_iff.1 h
  obtain ⟨_, _, _, read⟩ := Decode.items_ok_iff.1 items
  exact (Reader.vector_forall (fun _ _ _ => exportItem_fits) read).2

end WasmLens.MemoryExport
