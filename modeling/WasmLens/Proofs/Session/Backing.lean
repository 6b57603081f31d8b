import WasmLens.Proofs.Session.Housing
import WasmLens.Proofs.Session.Wiring

/-!
# What is behind a declared memory

Once the memory of a module is declared, it stays what was found out about it (`Backs`): there is none, or the
module will create it, or the host has created it as it was planned. The last one is all that an open session
has for memories (`Backed`). `Kept` collects this with all else that **every run of a session keeps**
(`run_kept`).
-/
namespace WasmLens.Session

open Wasm Machine LinearMemory CompiledModule

/-- What a module lets one find out about its first memory. -/
inductive Backs (m : CompiledModule) : Backing → Prop
  | absent (none : m.outline.primaryMemory? = none) : Backs m .absent
  | defined {memory : MemoryInfo} {plan : MemoryPlan} (primary : m.outline.primaryMemory? = some memory)
      (own : m.outline.isImportedMemory 0 = false)
      (planned : MemoryPlan.ofMemory memory false m.config.pageCap = .ok plan) : Backs m (.defined plan)
  | imported {memory : MemoryInfo} {plan : MemoryPlan} (primary : m.outline.primaryMemory? = some memory)
      (foreign : m.outline.isImportedMemory 0) (unshared : memory.isShared = false)
      (planned : MemoryPlan.ofMemory memory true m.config.pageCap = .ok plan) : Backs m (.imported plan)

/-- The memory that a host creates as it is planned. -/
def MemoryPlan.memory (p : MemoryPlan) : LinearMemory := ofLimits p.minimum p.maximum p.is64

/-- **How the declared memory of a session belongs to its module**, and to the store as long as no instance
uses it. -/
structure Backed (s : Session) : Prop where
  backs : ∀ b, s.imports.memory = some b → Backs s.module b
  created : s.phase.isOpen → ∀ plan, s.imports.memory = some (.imported plan) → s.store.memories = #[plan.memory]

theorem ofModule_backed (m : CompiledModule) : Backed (ofModule m) := ⟨nofun, nofun⟩

section

variable {contents : List Content} {s s' : Session} {op : Op} {reply : Reply}

/-- Declaring a memory finds out about it, and creates it as it is planned. -/
theorem Imports.DeclaresMemory.backs {i' : Imports} {store' : Store} (backed : Backed s) (isOpen : s.phase.isOpen)
    (h : DeclaresMemory s.imports s.store s.module i' store') :
    (∀ b, i'.memory = some b → Backs s.module b) ∧
      ∀ plan, i'.memory = some (.imported plan) → store'.memories = #[plan.memory] := by
  cases h with
  | again => exact ⟨backed.backs, backed.created isOpen⟩
  | absent _ none =>
    refine ⟨?_, nofun⟩
    rintro _ ⟨⟩
    exact .absent none
  | defined _ primary own planned =>
    refine ⟨?_, nofun⟩
    rintro _ ⟨⟩
    exact .defined primary own planned
  | imported _ primary foreign planned unshared made =>
    refine ⟨?_, ?_⟩
    · rintro _ ⟨⟩
      exact .imported primary foreign unshared planned
    · rintro _ ⟨⟩
      rw [(MemoryPlan.create_ok_iff.1 made).2.2.2]
      rfl

/-- **Every operation** keeps what is behind a declared memory. -/
theorem Performs.backed (h : Performs s op s' reply) (phased : WellPhased s) (backed : Backed s) : Backed s' := by
  have closed (live : s.live.isSome) : s.phase.isOpen = false := by
    rw [phased.live.1 live]
    rfl
  cases h with
  | refused | starts | hangs | getsGlobal | reads => exact backed
  | setsTimer => exact ⟨backed.backs, backed.created⟩
  | declaresMemory isOpen declared =>
    obtain ⟨backs, created⟩ := (Imports.declareMemory_declares declared).backs backed isOpen
    exact ⟨backs, fun _ => created⟩
  | declaresGlobals isOpen declared =>
    rcases Imports.declareGlobals_creates declared with ⟨rfl, rfl⟩ | ⟨globals, created, rfl⟩
    · exact ⟨backed.backs, fun _ => backed.created isOpen⟩
    · obtain ⟨cells, rfl, _⟩ := created.cells
      exact ⟨backed.backs, fun _ => backed.created isOpen⟩
  | @setsGlobal name v _ _ set =>
    have way := Imports.sets s.imports s.store name v
    rw [set] at way
    cases way with
    | unknown | void => exact backed
    | writes | moves => exact ⟨backed.backs, backed.created⟩
  | fails | instantiates => exact ⟨backed.backs, nofun⟩
  | calls _ live => exact ⟨backed.backs, fun isOpen => absurd isOpen (Bool.not_eq_true _ ▸ closed live)⟩
  | writes here =>
    refine ⟨backed.backs, fun isOpen => absurd isOpen (Bool.not_eq_true _ ▸ closed ?_)⟩
    unfold memoryPlace at here
    split at here
    · cases here
    · rename_i live
      rw [live]
      rfl

/-- A memory that was declared is there, if the module imports it. -/
theorem Backed.hasMemory (backed : Backed s) (coherent : Coherent contents s.module)
    (foreign : 0 < s.module.outline.importedMemories) (declared : s.imports.memory.isSome) : s.imports.hasMemory := by
  obtain ⟨b, memory⟩ := Option.isSome_iff_exists.1 declared
  cases backed.backs b memory with
  | imported => rw [Imports.hasMemory, memory]
  | defined _ own =>
    rw [Outline.isImportedMemory, decide_eq_false_iff_not] at own
    exact absurd foreign own
  | absent none =>
    rw [Outline.primaryMemory?, List.head?_eq_none_iff] at none
    exact absurd none (coherent.memories_ne_nil foreign)

end

/-! ## All runs -/

/-- **What every run of a session keeps.** -/
structure Kept (contents : List Content) (s : Session) : Prop where
  coherent : Coherent contents s.module
  phased : WellPhased s
  wired : Wired contents s
  housed : Housed s
  backed : Backed s

theorem Performs.kept {contents : List Content} {s s' : Session} {op : Op} {reply : Reply}
    (h : Performs s op s' reply) (kept : Kept contents s) : Kept contents s' where
  coherent := h.module.symm ▸ kept.coherent
  phased := h.wellPhased kept.phased
  wired := (h.wired kept.coherent kept.phased kept.wired).1
  housed := h.housed kept.coherent kept.phased kept.housed
  backed := h.backed kept.phased kept.backed

theorem ofModule_kept {contents : List Content} {m : CompiledModule} (coherent : Coherent contents m) :
    Kept contents (ofModule m) :=
  ⟨coherent, ofModule_wellPhased m, ofModule_wired contents m, ofModule_housed m, ofModule_backed m⟩

/-- **Whatever operations a session has gone through**, its parts belong together. -/
theorem run_kept {contents : List Content} {s : Session} (kept : Kept contents s) (ops : List Op) :
    Kept contents (s.run ops) :=
  run_keeps (Kept contents) (fun _ _ _ _ kept performed => performed.kept kept) ops kept

end WasmLens.Session
