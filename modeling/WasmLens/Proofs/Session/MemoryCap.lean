import Mathlib.Data.List.Find
import WasmLens.Proofs.Session.Declaring
import WasmLens.Proofs.Session.Housing

/-!
# A cap on memories

A cap on pages is enforced as a limit on bytes, which saturates (`byteLimit`), and as the maximum of the
memory that a host creates. Both come to the same: **no memory ever has more pages than the cap, and none is
refused room below it** (`run_capped`).

The one exception is a memory that the host creates for 32-bit addresses without a declared maximum. The cap
becomes its maximum as it is, and one that 32-bit addresses do not reach is refused, although the memory has
a place below it (`declareMemory_beyond`).
-/
namespace WasmLens.Session

open Wasm Machine LinearMemory CompiledModule

/-! ## Growing under a cap -/

/-- A memory that has room below the cap and its maximum can grow. -/
theorem canGrow_of_le {cap delta : Nat} {m : LinearMemory} (under : m.pages + delta ≤ cap)
    (room : m.pages + delta ≤ m.maximum) : m.canGrow (some (byteLimit cap)) delta := by
  have host : m.pages + delta ≤ hostPages := Nat.le_trans room (Nat.le_trans m.reached (Nat.min_le_left _ _))
  rw [canGrow, (withinLimit_byteLimit_iff host).2 under, decide_eq_true room, Bool.and_true, Bool.or_true]

theorem memoryGrow_of_canGrow {s : Store} {k delta : Nat} {m : LinearMemory} (found : s.memories[k]? = some m)
    (can : m.canGrow s.memoryLimit delta) (stack : List Val) : s.memoryGrow k delta stack =
      .done { s with memories := s.memories.modify k (·.grow delta) } (Val.ofIndex m.is64 m.pages :: stack) := by
  simp only [Store.memoryGrow, found, can, if_true]

/-! ## Declaring under a cap -/

/-- Whether the first memory of a module can be declared under a cap. A host only creates memories for 32-bit
addresses if a maximum that these reach is declared, or comes with the cap. -/
def Declarable (cap : Nat) (o : Outline) : Prop :=
  ∀ memory, o.primaryMemory? = some memory → memory.minimum ≤ cap ∧
    (o.isImportedMemory 0 → memory.isShared = false ∧ memory.minimum ≤ addressable memory.is64 ∧
      (memory.is64 ∨ memory.maximum.isSome ∨ cap ≤ Context.maxPages false))

theorem not_overreached_iff {memory : MemoryInfo} {cap : Nat} :
    ¬Overreached memory cap ↔ memory.is64 ∨ memory.maximum.isSome ∨ cap ≤ Context.maxPages false := by
  cases wide : memory.is64 <;> cases declared : memory.maximum <;> simp [Overreached, wide, declared]

theorem canDeclare_some_iff {cap : Nat} {o : Outline} : CanDeclare (some cap) o ↔ Declarable cap o := by
  simp only [CanDeclare, Declarable, Option.mem_some_iff, forall_eq', not_overreached_iff]

section

variable {contents : List Content} {s : Session}

/-- **When the first memory of a module can be declared** in a session under a cap. -/
theorem declaresMemory_iff (coherent : Coherent contents s.module) (housed : Housed s) {cap : Nat}
    (capped : s.module.config.pageCap = some cap) :
    (∃ i' s', Imports.DeclaresMemory s.imports s.store s.module i' s') ↔
      s.imports.memory.isSome ∨ Declarable cap s.module.outline := by
  cases first : s.imports.memory with
  | some _ => exact iff_of_true ⟨_, _, .again (by rw [first]; rfl)⟩ (.inl rfl)
  | none =>
    rw [declaresMemory_capped_iff coherent housed.houses.memoryLimit first, capped, canDeclare_some_iff]
    exact (or_iff_right Bool.false_ne_true).symm

/-! ## Sessions under a cap -/

/-- **What a cap means for a session.** -/
structure Capped (cap : Nat) (s : Session) : Prop where
  /-- No memory has more pages than the cap, whenever one looks. -/
  pages : ∀ op now, During s op now → ∀ m ∈ now.memories, m.pages ≤ cap
  /-- An instance has all memories of the module, so none that needs more pages than the cap. -/
  live : s.phase = .instantiated → s.store.memories.size = s.module.outline.memories.length ∧
    ∀ memory ∈ s.module.outline.memories, memory.minimum ≤ cap
  /-- Below the cap and the declared maximum, memories grow. -/
  grows : ∀ op now, During s op now → ∀ (k : Nat) m memory, now.memories[k]? = some m →
    s.module.outline.memories[k]? = some memory → ∀ delta stack, m.pages + delta ≤ cap →
      m.pages + delta ≤ effectiveMaximum memory.maximum memory.is64 → now.memoryGrow k delta stack =
        .done { now with memories := now.memories.modify k (·.grow delta) } (Val.ofIndex m.is64 m.pages :: stack)
  /-- An instantiation is refused for the size of a memory only if there could be none, cap or no cap. -/
  starts : (∀ t ∈ s.module.image.memories, t.limits.minimum ≤ cap) →
    oversized? s.store.memoryLimit s.module.image.memories = oversized? none s.module.image.memories
  declares : s.phase.isOpen → ((∃ plan, (s.perform .declareMemory).2 = .ok (.plan plan)) ↔
    s.imports.memory.isSome ∨ Declarable cap s.module.outline)

theorem Housed.capped (housed : Housed s) (coherent : Coherent contents s.module) (phased : WellPhased s)
    {cap : Nat} (capped : s.module.config.pageCap = some cap) : Capped cap s := by
  have during {op : Op} {now : Store} (moment : During s op now) :
      now.Houses ((some cap).map byteLimit) (some cap) s.module.outline.memories := by
    have houses := housed.during coherent phased moment
    unfold MemoriesOf at houses
    rw [capped] at houses
    exact houses
  have most {op : Op} {now : Store} (moment : During s op now) (m) (mem : m ∈ now.memories) : m.pages ≤ cap := by
    obtain ⟨k, found⟩ := Array.mem_iff_getElem?.1 mem
    obtain ⟨_, _, fits, _⟩ := (during moment).each k m found
    exact (canStart_byteLimit_iff.1 fits).1 cap rfl
  refine ⟨fun _ _ => most, fun live => ⟨housed.live live, fun memory mem => ?_⟩, ?_, fun under => ?_,
    fun isOpen => (perform_declareMemory_iff isOpen).trans (declaresMemory_iff coherent housed capped)⟩
  · obtain ⟨k, declared⟩ := List.mem_iff_getElem?.1 mem
    have inside : k < s.store.memories.size := by
      rw [housed.live live]
      exact (List.getElem?_eq_some_iff.1 declared).1
    have moment : During s .instantiate s.store := .before _
    obtain ⟨_, same, _, follows⟩ := (during moment).each k _ (Array.getElem?_eq_getElem inside)
    rw [declared] at same
    cases same
    exact Nat.le_trans follows.minimum (most moment _ (Array.getElem_mem inside))
  · intro op now moment k m memory found declared delta stack under room
    have houses := during moment
    obtain ⟨_, same, _, follows⟩ := houses.each k m found
    rw [declared] at same
    cases same
    have room := (follows.maximum (m.pages + delta) (fun c here => Option.some.inj here ▸ under)).2 room
    refine memoryGrow_of_canGrow found ?_ stack
    rw [houses.memoryLimit]
    exact canGrow_of_le under room
  · have limit := housed.houses.memoryLimit
    rw [capped] at limit
    have same (t) (mem : t ∈ s.module.image.memories) :
        canStart ((some cap).map byteLimit) t.is64 t.limits.minimum =
          canStart ((none : Option Nat).map byteLimit) t.is64 t.limits.minimum := by
      rw [Bool.eq_iff_iff, canStart_byteLimit_iff, canStart_byteLimit_iff]
      refine and_congr_left fun _ => iff_of_true (fun c here => ?_) fun c none => ?_
      · exact Option.some.inj here ▸ under t mem
      · cases none
    rw [limit, oversized?, oversized?]
    exact congrArg (Option.map _) (List.find?_congr fun t mem => congrArg _ (same t mem))

end

/-! ## All runs -/

/-- **A cap on memories.** Whatever operations a session has gone through under a cap, none of its memories has
more pages, an instance is of a module that needs no more, and below the cap no memory is refused room on its
account: neither one that grows, nor one that a module defines, nor one that is declared, save that a
host only creates memories for 32-bit addresses if a maximum that these reach is declared or comes with the
cap. -/
theorem run_capped {c : Config} {bytes : List UInt8} {s : Session} (h : compile c bytes = .ok s) {cap : Nat}
    (capped : c.pageCap = some cap) (ops : List Op) : Capped cap (s.run ops) := by
  obtain ⟨r, m, compiles, rfl⟩ := compile_ok h
  obtain ⟨phased, housed⟩ := run_housed compiles.coherent (ofModule_wellPhased m) (ofModule_housed m) ops
  have module := run_module (ofModule m) ops
  have coherent : Coherent r.contents ((ofModule m).run ops).module := by
    rw [module]
    exact compiles.coherent
  refine housed.capped coherent phased ?_
  rw [module, ← capped, ← compiles.config]
  rfl

/-- A module that imports a memory and defines another one, for 64-bit addresses. A function that it exports
grows the second one by two pages. -/
def growingModule : List UInt8 :=
  Wasm.Sections.join
    [⟨Wasm.Section.typeId, [1, 0x60, 0, 1, 0x7e]⟩,
      ⟨Wasm.Section.importId, [1, 0, 1, 0x6d, 2, 0, 1]⟩,
      ⟨Wasm.Section.functionId, [1, 0]⟩,
      ⟨Wasm.Section.memoryId, [1, 5, 2, 100]⟩,
      ⟨Wasm.Section.exportId, [1, 4, 0x67, 0x72, 0x6f, 0x77, 0, 0]⟩,
      ⟨Wasm.Section.codeId, [1, 6, 0, 0x42, 2, 0x40, 1, 0x0b]⟩]

/-- Grows the second memory up to the cap, and once more. -/
def growingRun : List Op := [.declareMemory, .instantiate, .call "grow" [], .call "grow" []]

theorem run_capped_growing :
    ∃ s, compile { memory64 := true, multiMemory := true, maxMemoryPages := some 4 } growingModule = .ok s ∧
      (s.run growingRun).store.memories.toList.map (·.pages) = [1, 4] ∧ Capped 4 (s.run growingRun) := by
  obtain ⟨s, compiled, sizes⟩ : ∃ s, compile
      { memory64 := true, multiMemory := true, maxMemoryPages := some 4 } growingModule = .ok s ∧
        (s.run growingRun).store.memories.toList.map (·.pages) = [1, 4] := by decide +kernel
  exact ⟨s, compiled, sizes, run_capped compiled rfl growingRun⟩

/-- A module that imports a memory of one page. -/
def onePageModule : List UInt8 := Wasm.Sections.join [⟨Wasm.Section.importId, [1, 0, 1, 0x6d, 2, 0, 1]⟩]

/-- A cap that is far above what a memory needs keeps the host from creating it, which it does without. -/
theorem declareMemory_beyond :
    (∃ s, compile { maxMemoryPages := some 0xffffffffffffffff } onePageModule = .ok s ∧
      s.module.outline.memories = [⟨1, none, false, false⟩] ∧ (s.perform .declareMemory).2 =
        .error (.refused (.allocation "32-bit memory limits out of range"))) ∧
      ∃ s, compile {} onePageModule = .ok s ∧
        (s.perform .declareMemory).2 = .ok (.plan (some ⟨1, none, false, true⟩)) := by
  constructor <;> decide +kernel

end WasmLens.Session
