import WasmLens.Proofs.Code.Layout
import WasmLens.Proofs.Module.Compiled

/-!
# Where compiled code lies

A compiled module says of every function that it defines where its code lies: one body behind the other, in the
order of the functions. No body is empty, since it starts with a count of locals. So **what a module reports is
one place for each function, in their order** (`Compiles.located`), and no two places overlap.
-/
namespace WasmLens

open Wasm Code

/-! ## Bodies have bytes -/

namespace Wasm

theorem Decode.body_ok {f : Features} {bytes : List UInt8} {b : Body} (h : Decode.body f bytes = .ok b) :
    b.bytes = bytes ∧ bytes ≠ [] := by
  obtain ⟨⟨locals, rest⟩, counted, h⟩ := bind_eq_ok_iff.1 h
  obtain ⟨operators, _, h⟩ := bind_eq_ok_iff.1 h
  cases h
  refine ⟨rfl, ?_⟩
  rintro rfl
  obtain ⟨count, between, read, _⟩ := Decode.items_ok_iff.1 counted
  cases read

theorem Decode.sizedBody_ok {f : Features} {bytes rest : List UInt8} {b : Body}
    (h : Decode.sizedBody f bytes = .ok (b, rest)) : ∃ own, Decode.body f own = .ok b := by
  simp only [Decode.sizedBody, Reader.bind_ok_iff] at h
  obtain ⟨_, _, _, own, _, _, h⟩ := h
  refine ⟨own, ?_⟩
  cases read : Decode.body f own with
  | error fault =>
    rw [read] at h
    cases h
  | ok b' =>
    rw [read] at h
    cases h
    rfl

/-- **Every body** of some contents was read from bytes. -/
theorem Content.bodyItems_read {f : Features} {sections : List Section} {contents : List Content}
    (decoded : sections.mapM (Content.ofSection f) = .ok contents) :
    ∀ b ∈ contents.flatMap Content.bodyItems, ∃ own, Decode.body f own = .ok b := by
  intro b among
  obtain ⟨content, mem, here⟩ := List.mem_flatMap.1 among
  obtain ⟨s, _, read⟩ := mem_of_mapM decoded content mem
  cases content with
  | code bodies =>
    obtain ⟨_, read⟩ := Content.ofSection_ok_iff.1 read
    obtain ⟨_, _, _, items⟩ := Decode.items_ok_iff.1 read
    exact (Reader.vector_forall (fun _ _ _ => Decode.sizedBody_ok) items).2 b here
  | _ => cases here

/-- **No body is empty** of those that can be read. -/
theorem Content.bodyItems_bytes {f : Features} {sections : List Section} {contents : List Content}
    (decoded : sections.mapM (Content.ofSection f) = .ok contents) :
    ∀ b ∈ contents.flatMap Content.bodyItems, b.bytes ≠ [] := by
  intro b among
  obtain ⟨own, read⟩ := Content.bodyItems_read decoded b among
  obtain ⟨same, some⟩ := Decode.body_ok read
  rwa [same]

end Wasm

namespace CompiledModule

/-! ## Bodies one behind the other -/

theorem spansFrom_funcs (bodies : List Body) : ∀ start func,
    (spansFrom start func bodies).map (·.func) = List.range' func bodies.length := by
  induction bodies with
  | nil => exact fun _ _ => rfl
  | cons b bodies ih =>
    intro start func
    rw [spansFrom, List.map_cons, ih, List.length_cons, List.range'_succ]

/-- Where a body lies that is told. -/
theorem mem_spansFrom {bodies : List Body} : ∀ {start func : Nat} {s : Span},
    s ∈ spansFrom start func bodies → func ≤ s.func ∧ start ≤ s.start ∧
      s.stop ≤ start + (bodies.flatMap (·.bytes)).length ∧ ∃ b ∈ bodies, s.stop = s.start + b.bytes.length := by
  induction bodies with
  | nil => nofun
  | cons b bodies ih =>
    intro start func s mem
    rw [spansFrom, List.mem_cons] at mem
    rw [List.flatMap_cons, List.length_append]
    rcases mem with rfl | mem
    · exact ⟨Nat.le_refl _, Nat.le_refl _, by simp, b, List.mem_cons_self, rfl⟩
    · obtain ⟨func_le, start_le, stop_le, b', among, stop⟩ := ih mem
      exact ⟨by omega, by omega, by omega, b', List.mem_cons_of_mem b among, stop⟩

/-- **Bodies do not overlap.** -/
theorem spansFrom_apart {bodies : List Body} : ∀ {start func : Nat},
    ∀ s ∈ spansFrom start func bodies, ∀ s' ∈ spansFrom start func bodies, s.func < s'.func →
      s.stop ≤ s'.start := by
  induction bodies with
  | nil => nofun
  | cons b bodies ih =>
    intro start func s mem s' mem' below
    rw [spansFrom, List.mem_cons] at mem mem'
    rcases mem with rfl | mem <;> rcases mem' with rfl | mem'
    · exact absurd below (Nat.lt_irrefl _)
    · exact (mem_spansFrom mem').2.1
    · have := (mem_spansFrom mem).1
      simp only at below
      omega
    · exact ih s mem s' mem' below

variable {c : Config} {bytes : List UInt8} {r : Reading} {m : CompiledModule}

/-- The functions that a module defines are those that are not imported. -/
theorem Coherent.definedFunctions {contents : List Content} (h : Coherent contents m) :
    (contents.flatMap Content.definedFunctions).length =
      m.outline.functions.length - m.outline.importedFunctions := by
  rw [h.outline.functions, h.outline.importedFunctions, List.length_append]
  omega

/-- **A module that compiles** reports one place for each function that it defines. -/
theorem Compiles.located (h : Compiles c bytes r m) :
    Layout.Located m.text m.locations m.outline.importedFunctions
        (m.outline.functions.length - m.outline.importedFunctions) ∧
      ∀ s ∈ m.locations, ∀ s' ∈ m.locations, s.func < s'.func → s.stop ≤ s'.start := by
  have valid := (Reading.ofBytes_ok_iff.1 h.read).1
  have bodies := h.coherent.bodyItems
  have apart : ∀ s ∈ m.locations, ∀ s' ∈ m.locations, s.func < s'.func → s.stop ≤ s'.start := by
    rw [h.locations]
    exact spansFrom_apart
  have place : ∀ s ∈ m.locations, s.start < s.stop ∧ s.stop ≤ m.text.length := by
    intro s mem
    rw [h.locations] at mem
    obtain ⟨_, _, most, b, among, stop⟩ := mem_spansFrom mem
    rw [bodies] at among
    have some := List.length_pos_iff.2 (Content.bodyItems_bytes valid.decoded b among)
    rw [h.text]
    omega
  refine ⟨⟨?_, fun s mem => ?_, fun s mem s' mem' below => ?_⟩, apart⟩
  · rw [← h.coherent.definedFunctions, ← h.coherent.bodies, ← bodies, h.locations, h.outline]
    exact .of_eq (spansFrom_funcs ..)
  · exact ⟨Nat.le_of_lt (place s mem).1, (place s mem).2⟩
  · exact Nat.lt_of_lt_of_le (place s mem).1 (apart s mem s' mem' below)

end CompiledModule

end WasmLens
