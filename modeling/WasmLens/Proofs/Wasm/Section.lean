import WasmLens.Proofs.Wasm.Reader
import WasmLens.Wasm.Section

/-!
# Splitting and joining modules

`payloads` is a module as a sequence of sections: their ids and contents, without the offsets they stand
at and without the spelling of their sizes, which may be padded. The key theorem is `split_join`: joining
**any sections that fit** (`Fits`: an id below 128 and a size of 32 bits) gives bytes that split into
exactly these. Sections that were split off always fit (`fits_of_split`), so they can be joined again.
-/
namespace WasmLens.Wasm

/-! ## One section -/

namespace Section

/-- The sections that have a written form. -/
structure Fits (s : Section) : Prop where
  id_lt : s.id < 128
  size_lt : s.contents.length < twoTo 32

/-- **A section reads back**, whatever stands behind it. -/
theorem read_write {s : Section} (rest : List UInt8) (fits : s.Fits) :
    read (s.write ++ rest) = .ok (s, rest) := by
  have id : (UInt8.ofNat s.id).toNat = s.id :=
    Reader.toNat_ofNat (Nat.lt_trans fits.id_lt (by omega))
  have contents := Reader.sized_write s.contents rest fits.size_lt
  rw [Reader.bind_ok_iff] at contents
  obtain ⟨size, between, sizeRead, contentsRead⟩ := contents
  unfold read
  simp only [write, List.cons_append]
  rw [Reader.bind_of_ok (Reader.byte_ok_iff.2 rfl), id, if_neg (Nat.not_le.2 fits.id_lt),
    Reader.bind_of_ok sizeRead, Reader.bind_of_ok contentsRead]
  rfl

/-- A section that is read fits, and it takes bytes off the front. -/
theorem read_ok {bytes rest : List UInt8} {s : Section} (h : read bytes = .ok (s, rest)) :
    s.Fits ∧ rest.length < bytes.length := by
  unfold read at h
  rw [Reader.bind_ok_iff] at h
  obtain ⟨id, behindId, idRead, h⟩ := h
  obtain rfl := Reader.byte_ok_iff.1 idRead
  split at h
  · rw [Reader.bind_ok_iff] at h
    obtain ⟨_, _, refused, _⟩ := h
    cases refused
  · rename_i small
    simp only [Reader.bind_ok_iff, Reader.take_ok_iff, Reader.pure_ok_iff] at h
    obtain ⟨size, _, sizeRead, contents, _, ⟨rfl, rfl⟩, rfl, rfl⟩ := h
    refine ⟨⟨Nat.not_le.1 small, Reader.unsigned_lt sizeRead⟩, ?_⟩
    have := Reader.unsigned_shorter sizeRead
    simp only [List.length_append, List.length_cons] at this ⊢
    omega

/-- A section whose size has more bits does not read back. -/
theorem size_lt_of_read {s t : Section} {rest rest' : List UInt8} (id : s.id < 128)
    (h : read (s.write ++ rest) = .ok (t, rest')) : s.contents.length < twoTo 32 := by
  have same : (UInt8.ofNat s.id).toNat = s.id := Reader.toNat_ofNat (Nat.lt_trans id (by omega))
  unfold read at h
  simp only [write, List.cons_append] at h
  rw [Reader.bind_of_ok (Reader.byte_ok_iff.2 rfl), same, if_neg (Nat.not_le.2 id),
    Reader.bind_ok_iff] at h
  obtain ⟨size, _, sizeRead, _⟩ := h
  rw [Writer.sized, List.append_assoc] at sizeRead
  have := Reader.unsigned_lt sizeRead
  rwa [Reader.unsigned_of_write _ _ _ sizeRead] at this

end Section

/-! ## All sections -/

namespace Sections

/-- The sections of a module, without the offsets they stand at. -/
def payloads (bytes : List UInt8) : List Section := (split bytes).found.map (·.payload)

theorem splitFrom_nil (offset : Nat) : splitFrom offset [] = ⟨[], none⟩ := by
  rw [splitFrom]

/-- A section at the front is split off, and the rest splits as it does by itself. -/
theorem splitFrom_of_read (offset : Nat) {bytes rest : List UInt8} {s : Section}
    (h : Section.read bytes = .ok (s, rest)) : ∃ next,
      splitFrom offset bytes =
        ⟨⟨offset, s⟩ :: (splitFrom next rest).found, (splitFrom next rest).fault⟩ := by
  have shorter := (Section.read_ok h).2
  match bytes with
  | [] => simp at shorter
  | b :: tail =>
    refine ⟨offset + ((b :: tail).length - rest.length), ?_⟩
    rw [splitFrom, h]
    simp only
    rw [if_pos shorter]

theorem splitFrom_write : ∀ (sections : List Section) (offset : Nat), (∀ s ∈ sections, s.Fits) →
    (splitFrom offset (sections.flatMap Section.write)).found.map (·.payload) = sections ∧
      (splitFrom offset (sections.flatMap Section.write)).fault = none
  | [], offset, _ => by
    rw [List.flatMap_nil, splitFrom_nil]
    exact ⟨rfl, rfl⟩
  | s :: sections, offset, fits => by
    rw [List.flatMap_cons]
    obtain ⟨next, split⟩ := splitFrom_of_read offset
      (Section.read_write (sections.flatMap Section.write) (fits s (by simp)))
    obtain ⟨found, fault⟩ := splitFrom_write sections next fun t mem => fits t (List.mem_cons_of_mem s mem)
    rw [split]
    exact ⟨by rw [List.map_cons, found], fault⟩

/-- **Joined sections split again**: into the same sections, and nothing is left over. -/
theorem split_join {sections : List Section} (fits : ∀ s ∈ sections, s.Fits) :
    payloads (join sections) = sections ∧ (split (join sections)).fault = none := by
  unfold payloads split join
  rw [List.take_left', if_pos rfl, List.drop_left']
  · exact splitFrom_write sections _ fits
  · rfl
  · rfl

/-- A section that does not read back cuts the module short. -/
theorem size_lt_of_splitFrom {s : Section} {after : List Section} (id : s.id < 128) :
    ∀ (before : List Section) (offset : Nat), (∀ t ∈ before, t.Fits) →
      (splitFrom offset ((before ++ s :: after).flatMap Section.write)).fault = none →
        s.contents.length < twoTo 32
  | [], offset, _, whole => by
    rw [List.nil_append, List.flatMap_cons] at whole
    cases read : Section.read (s.write ++ after.flatMap Section.write) with
    | ok pair => exact Section.size_lt_of_read id read
    | error f =>
      rw [show s.write ++ after.flatMap Section.write =
        UInt8.ofNat s.id :: (Writer.sized s.contents ++ after.flatMap Section.write) from rfl] at whole read
      rw [splitFrom, read] at whole
      cases whole
  | t :: before, offset, fits, whole => by
    rw [List.cons_append, List.flatMap_cons] at whole
    obtain ⟨next, split⟩ := splitFrom_of_read offset
      (Section.read_write ((before ++ s :: after).flatMap Section.write) (fits t List.mem_cons_self))
    rw [split] at whole
    exact size_lt_of_splitFrom id before next (fun u mem => fits u (List.mem_cons_of_mem t mem)) whole

/-- **A size of 32 bits is needed** of a section that stands behind others that fit. -/
theorem size_lt_of_join {before after : List Section} {s : Section} (id : s.id < 128)
    (fits : ∀ t ∈ before, t.Fits) (whole : (split (join (before ++ s :: after))).fault = none) :
    s.contents.length < twoTo 32 := by
  unfold split join at whole
  rw [List.take_left', if_pos rfl, List.drop_left'] at whole
  · exact size_lt_of_splitFrom id before _ fits whole
  · rfl
  · rfl

theorem splitFrom_fits (bytes : List UInt8) : ∀ (offset : Nat), ∀ p ∈ (splitFrom offset bytes).found,
    p.payload.Fits := by
  induction h : bytes.length using Nat.strongRecOn generalizing bytes with
  | ind size ih =>
    intro offset
    match bytes with
    | [] => simp [splitFrom_nil]
    | b :: tail =>
      cases read : Section.read (b :: tail) with
      | error f =>
        rw [splitFrom, read]
        simp
      | ok pair =>
        obtain ⟨s, rest⟩ := pair
        obtain ⟨fits, shorter⟩ := Section.read_ok read
        obtain ⟨next, split⟩ := splitFrom_of_read offset read
        rw [split]
        simp only [List.mem_cons, forall_eq_or_imp]
        exact ⟨fits, ih rest.length (h ▸ shorter) rest rfl next⟩

/-- Sections that were split off can be written again. -/
theorem fits_of_split (bytes : List UInt8) : ∀ s ∈ payloads bytes, s.Fits := by
  intro s mem
  unfold payloads split at mem
  split at mem
  · obtain ⟨p, found, rfl⟩ := List.mem_map.1 mem
    exact splitFrom_fits _ _ p found
  · simp at mem

end Sections

end WasmLens.Wasm
