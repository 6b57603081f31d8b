import WasmLens.Proofs.Module.Compiled
import WasmLens.Proofs.Session.Memories
import WasmLens.Proofs.Session.Run

/-!
# When a memory can be declared

A cap on pages is enforced as a limit on bytes, which saturates (`byteLimit`), and as the maximum of the
memory that a host creates. Either of them leaves room up to the cap (`canStart_byteLimit_iff`,
`ofMemory_capped_iff`).

A cap can also be too large: it becomes the maximum of a memory that declares none, as it is, and the
addresses of that memory may not reach so far (`Overreached`). So **a memory can be declared** if it has room
below the cap and the cap does not overreach (`declaresMemory_capped_iff`).
-/
namespace WasmLens.Session

open Wasm Machine LinearMemory CompiledModule

/-! ## The cap in bytes -/

/-- **The byte limit of a cap** lets the memories pass that have at most so many pages, also where it is
saturated. -/
theorem withinLimit_byteLimit_iff {cap pages : Nat} (host : pages ≤ hostPages) :
    withinLimit (some (byteLimit cap)) pages ↔ pages ≤ cap := by
  have host : pages ≤ 2147483648 := host
  have page : Memory.pageSize = 65536 := rfl
  have word : twoTo 64 = 18446744073709551616 := rfl
  have asked : withinLimit (some (byteLimit cap)) pages ↔ requested pages ≤ byteLimit cap := by
    rw [withinLimit, Option.all_some, decide_eq_true_iff]
  rw [asked, requested, byteLimit, page, word]
  omega

theorem canStart_byteLimit_iff {cap : Option Nat} {pages : Nat} {is64 : Bool} :
    canStart (cap.map byteLimit) is64 pages ↔ (∀ c ∈ cap, pages ≤ c) ∧ pages ≤ addressable is64 := by
  simp only [canStart, Bool.and_eq_true, decide_eq_true_eq]
  refine and_congr_left fun reached => ?_
  cases cap with
  | none => simp [withinLimit]
  | some c =>
    simp only [Option.map_some, Option.mem_some_iff, forall_eq']
    exact withinLimit_byteLimit_iff (Nat.le_trans reached (Nat.min_le_left _ _))

/-! ## Plans under a cap -/

/-- A cap that becomes the maximum of a memory whose addresses do not reach it. -/
def Overreached (memory : MemoryInfo) (cap : Nat) : Prop :=
  memory.is64 = false ∧ memory.maximum = none ∧ Context.maxPages false < cap

/-- A cap leaves room for a memory if its minimum is below it. -/
theorem ofMemory_capped_iff {t : MemoryType} (sound : t.Sound) (isImported : Bool) {cap : Option Nat} :
    (∃ plan, MemoryPlan.ofMemory (Outline.memoryInfo t) isImported cap = .ok plan) ↔
      ∀ c ∈ cap, t.limits.minimum ≤ c := by
  simp only [MemoryPlan.ofMemory_ok_iff, exists_and_left, exists_eq, and_true, Outline.memoryInfo]
  cases maximum : t.limits.maximum with
  | none => cases cap <;> simp [MemoryPlan.lowered]
  | some n =>
    have := (sound.maximum n maximum).1
    cases cap with
    | none => simpa [MemoryPlan.lowered] using this
    | some c =>
      simp only [MemoryPlan.lowered, Option.some.injEq, forall_eq', Option.mem_def]
      omega

section

variable {t : MemoryType} {isImported : Bool} {cap : Option Nat} {plan : MemoryPlan}

/-- What 32-bit addresses can be asked to reach is the cap, or what the memory declares. -/
theorem overreached_iff (sound : t.Sound)
    (planned : MemoryPlan.ofMemory (Outline.memoryInfo t) isImported cap = .ok plan) :
    (plan.isInexpressible ↔ ∃ c ∈ cap, Overreached (Outline.memoryInfo t) c ∧ twoTo 32 ≤ c) ∧
      (plan.isUnaddressable ↔ ∃ c ∈ cap, Overreached (Outline.memoryInfo t) c) := by
  obtain ⟨_, rfl⟩ := MemoryPlan.ofMemory_ok_iff.1 planned
  have word : twoTo 32 = 4294967296 := rfl
  have reach : Context.maxPages false = 65536 := rfl
  have minimum := sound.minimum
  simp only [MemoryPlan.isInexpressible, MemoryPlan.isUnaddressable, Overreached, Outline.memoryInfo, word, reach]
  cases wide : t.is64 with
  | true => simp
  | false =>
    rw [wide, reach] at minimum
    cases maximum : t.limits.maximum with
    | some n =>
      -- what is declared is reached, and a cap only lowers it
      have most := (sound.maximum n maximum).2
      rw [wide, reach] at most
      cases cap <;> simp [MemoryPlan.lowered] <;> omega
    | none =>
      cases cap <;> simp [MemoryPlan.lowered] <;> omega

/-- When a host creates a memory under a cap. -/
theorem create_capped_iff (sound : t.Sound)
    (planned : MemoryPlan.ofMemory (Outline.memoryInfo t) isImported cap = .ok plan) :
    (∃ created, plan.create (cap.map byteLimit) = .ok created) ↔
      t.limits.minimum ≤ addressable t.is64 ∧ ∀ c ∈ cap, ¬Overreached (Outline.memoryInfo t) c := by
  obtain ⟨inexpressible, unaddressable⟩ := overreached_iff sound planned
  have under := (ofMemory_capped_iff sound isImported).1 ⟨plan, planned⟩
  have limits : canStart (cap.map byteLimit) plan.is64 plan.minimum ↔ t.limits.minimum ≤ addressable t.is64 := by
    rw [(MemoryPlan.ofMemory_ok_iff.1 planned).2]
    exact canStart_byteLimit_iff.trans (and_iff_right under)
  simp only [MemoryPlan.create_ok_iff, limits, ← Bool.not_eq_true, inexpressible, unaddressable, exists_and_left,
    exists_eq, and_true]
  constructor
  · rintro ⟨_, addressed, fits⟩
    exact ⟨fits, fun c here past => addressed ⟨c, here, past⟩⟩
  · rintro ⟨fits, addressed⟩
    exact ⟨fun ⟨c, here, past, _⟩ => addressed c here past, fun ⟨c, here, past⟩ => addressed c here past, fits⟩

end

/-! ## Declaring under a cap -/

/-- **Whether the first memory of a module can be declared** under a cap. What a host creates has to be there
for it, and the cap must not be beyond what the addresses of a memory without a maximum reach. -/
def CanDeclare (cap : Option Nat) (o : Outline) : Prop :=
  ∀ memory, o.primaryMemory? = some memory → (∀ c ∈ cap, memory.minimum ≤ c) ∧
    (o.isImportedMemory 0 → memory.isShared = false ∧ memory.minimum ≤ addressable memory.is64 ∧
      ∀ c ∈ cap, ¬Overreached memory c)

/-- The plan for the first memory of a module under a cap. -/
def planUnder (cap : Option Nat) (o : Outline) : Option MemoryPlan :=
  o.primaryMemory?.map fun memory =>
    ⟨memory.minimum, MemoryPlan.lowered memory.maximum cap, memory.is64, o.isImportedMemory 0⟩

section

variable {contents : List Content} {m : CompiledModule} {i i' : Imports} {store store' : Store}

/-- A memory that is declared is a sound one. -/
theorem primaryMemory_sound (coherent : Coherent contents m) {memory : MemoryInfo}
    (primary : m.outline.primaryMemory? = some memory) :
    ∃ t : MemoryType, t.Sound ∧ memory = Outline.memoryInfo t := by
  have mem := List.mem_of_mem_head? primary
  rw [coherent.outline.memories, ← Content.memories_entriesOf coherent.ordered] at mem
  obtain ⟨t, declared, rfl⟩ := List.mem_map.1 mem
  exact ⟨t, coherent.memories t declared, rfl⟩

/-- **When the first memory of a module can be declared** under a cap, unless that has been done before. -/
theorem declaresMemory_capped_iff (coherent : Coherent contents m)
    (limit : store.memoryLimit = m.config.pageCap.map byteLimit) (first : i.memory = none) :
    (∃ i' s', Imports.DeclaresMemory i store m i' s') ↔ CanDeclare m.config.pageCap m.outline := by
  constructor
  · rintro ⟨_, _, declares⟩ memory same
    cases declares with
    | again already =>
      rw [first] at already
      cases already
    | absent _ none =>
      rw [none] at same
      cases same
    | defined _ primary own planned =>
      obtain ⟨t, sound, rfl⟩ := primaryMemory_sound coherent primary
      cases primary.symm.trans same
      refine ⟨(ofMemory_capped_iff sound _).1 ⟨_, planned⟩, fun foreign => ?_⟩
      rw [own] at foreign
      cases foreign
    | imported _ primary foreign planned unshared made =>
      obtain ⟨t, sound, rfl⟩ := primaryMemory_sound coherent primary
      cases primary.symm.trans same
      rw [limit] at made
      obtain ⟨fits, addressed⟩ := (create_capped_iff sound planned).1 ⟨_, made⟩
      exact ⟨(ofMemory_capped_iff sound _).1 ⟨_, planned⟩, fun _ => ⟨unshared, fits, addressed⟩⟩
  · intro can
    cases primary : m.outline.primaryMemory? with
    | none => exact ⟨_, _, .absent first primary⟩
    | some memory =>
      obtain ⟨under, foreign⟩ := can memory primary
      obtain ⟨t, sound, rfl⟩ := primaryMemory_sound coherent primary
      cases own : m.outline.isImportedMemory 0 with
      | false =>
        obtain ⟨plan, planned⟩ := (ofMemory_capped_iff sound false).2 under
        exact ⟨_, _, .defined first primary own planned⟩
      | true =>
        obtain ⟨unshared, fits, addressed⟩ := foreign own
        obtain ⟨plan, planned⟩ := (ofMemory_capped_iff sound true).2 under
        obtain ⟨created, made⟩ := (create_capped_iff sound planned).2 ⟨fits, addressed⟩
        exact ⟨_, _, .imported first primary own planned unshared (by rw [limit]; exact made)⟩

/-- What is declared is planned under the cap. -/
theorem Imports.DeclaresMemory.plan (h : DeclaresMemory i store m i' store') (first : i.memory = none) :
    i'.memoryPlan? = planUnder m.config.pageCap m.outline := by
  cases h with
  | again already =>
    rw [first] at already
    cases already
  | absent _ none => rw [planUnder, none]; rfl
  | defined _ primary own planned =>
    rw [planUnder, primary, Option.map_some, own]
    exact congrArg some (MemoryPlan.ofMemory_ok_iff.1 planned).2
  | imported _ primary foreign planned =>
    rw [planUnder, primary, Option.map_some, foreign]
    exact congrArg some (MemoryPlan.ofMemory_ok_iff.1 planned).2

end

/-! ## What a session answers -/

section

variable {s : Session} {plan : Option MemoryPlan}

/-- An open session answers with the plan of the memory that it declares. -/
theorem perform_declareMemory_eq_iff (isOpen : s.phase.isOpen) :
    (s.perform .declareMemory).2 = .ok (.plan plan) ↔
      ∃ i' s', Imports.DeclaresMemory s.imports s.store s.module i' s' ∧ i'.memoryPlan? = plan := by
  simp only [perform, declareMemory, expectOpen, isOpen, if_true]
  cases declared : s.imports.declareMemory s.store s.module with
  | error fault =>
    constructor
    · intro answered
      cases answered
    · rintro ⟨i', s', declares, _⟩
      rw [declares.declareMemory] at declared
      cases declared
  | ok pair =>
    constructor
    · intro answered
      cases answered
      exact ⟨_, _, Imports.declareMemory_declares declared, rfl⟩
    · rintro ⟨i', s', declares, rfl⟩
      rw [declares.declareMemory] at declared
      cases declared
      rfl

theorem perform_declareMemory_iff (isOpen : s.phase.isOpen) :
    (∃ plan, (s.perform .declareMemory).2 = .ok (.plan plan)) ↔
      ∃ i' s', Imports.DeclaresMemory s.imports s.store s.module i' s' := by
  simp only [perform_declareMemory_eq_iff isOpen]
  exact ⟨fun ⟨_, i', s', declares, _⟩ => ⟨i', s', declares⟩, fun ⟨i', s', declares⟩ => ⟨_, i', s', declares, rfl⟩⟩

/-- An open session gives up if declaring its memory does. -/
theorem perform_declareMemory_unaddressable_iff (isOpen : s.phase.isOpen) :
    (s.perform .declareMemory).2 = .error .unaddressable ↔
      s.imports.declareMemory s.store s.module = .error .unaddressable := by
  simp only [perform, declareMemory, expectOpen, isOpen, if_true]
  cases s.imports.declareMemory s.store s.module with
  | error fault => cases fault <;> simp [Except.map, Except.mapError, Fault.ofMemory]
  | ok pair => simp [Except.map, Except.mapError]

end

end WasmLens.Session
