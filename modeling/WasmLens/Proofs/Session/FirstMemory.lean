import WasmLens.Proofs.Session.Declaring
import WasmLens.Proofs.Session.Provision
import WasmLens.Proofs.Session.Sharing

/-!
# The first memory of an instance

A host reaches the first memory of an instance by its handle on it, or by the name that the machine has it under.
Both lead to the first memory of the store (`Instance.ofModule_memory`), and memories stay in their places in the
store once they are there (`run_ages`). So **a host sees the first memory of the module** whichever way it came
about, and what it was told when that memory was declared holds of it at every moment of a run
(`run_firstMemory`).
-/
namespace WasmLens.Session

open Wasm Machine LinearMemory CompiledModule

section

variable {contents : List Content} {s s' : Session} {op : Op} {reply : Reply}

/-! ## Memories stay -/

/-- Code lets memories stay in their places. -/
theorem ages_changes {start now now' : Store} {o : Operator} (ages : start.Ages now) (changes : now.Changes o now') :
    start.Ages now' :=
  ages.trans changes.ages

/-- An instantiation leaves the memories that are there. -/
theorem link_ages {linked : Store × Except Error Unit} (link : s.link = some linked) : s.store.Ages linked.1 :=
  link_keeps (P := fun _ => True) (I := s.store.Ages) link (fun _ => ages_changes) s.module.program.within_all
    (fun alike ages => ages.trans alike.ages) (.refl _) fun _ _ _ => allocate_ages

/-- What is allocated for an instance stays with it. -/
theorem linked_ages {store : Store} (linked : s.link = some (store, .ok ())) :
    ∃ externs, s.imports.externs s.module.outline = .ok externs ∧
      (allocate (Machine.bind s.store externs) s.module.image).Ages store := by
  obtain ⟨externs, ready, bound, _, _, alike, started⟩ := link_ok linked
  have kept := runStart_keeps (P := fun _ => True) (I := ready.Ages) (fun _ => ages_changes)
    s.module.program.within_all started (.refl ready)
  exact ⟨externs, bound, alike.ages.trans kept⟩

/-- **Every operation** leaves the memories that are there. -/
theorem Performs.ages (h : Performs s op s' reply) (housed : Housed s) : s.store.Ages s'.store := by
  cases h with
  | refused | starts | hangs | getsGlobal | reads | setsTimer => exact .refl _
  | declaresMemory isOpen declared =>
    have waiting := housed.waiting isOpen
    cases Imports.declareMemory_declares declared with
    | again | absent | defined => exact .refl _
    | imported first =>
      -- there is no memory as long as none is declared
      rw [Imports.hasMemory, first] at waiting
      refine ⟨rfl, fun k m found => ?_⟩
      have inside := (Array.getElem?_eq_some_iff.1 found).1
      rw [waiting] at inside
      cases inside
  | declaresGlobals isOpen declared =>
    rcases Imports.declareGlobals_creates declared with ⟨rfl, rfl⟩ | ⟨globals, created, rfl⟩
    · exact .refl _
    · obtain ⟨cells, rfl, _⟩ := created.cells
      exact .of_eq rfl rfl
  | @setsGlobal name v _ _ set =>
    have way := Imports.sets s.imports s.store name v
    rw [set] at way
    cases way with
    | unknown | void | writes | moves => exact .of_eq rfl rfl
  | fails isOpen linked | instantiates isOpen linked => exact link_ages linked
  | calls _ _ measured =>
    exact measure_keeps (P := fun _ => True) (I := s.store.Ages) (fun _ => ages_changes) s.module.program.within_all
      measured (.refl _)
  | writes here memory written => exact (alike_of_written here memory written).ages

theorem run_ages (kept : Kept contents s) (ops : List Op) : s.store.Ages (s.run ops).store := by
  refine (run_keeps (fun s' => Kept contents s' ∧ s.store.Ages s'.store) ?_ ops ⟨kept, .refl _⟩).2
  rintro s' op s'' reply ⟨kept, ages⟩ performed
  exact ⟨performed.kept kept, ages.trans (performed.ages kept.housed)⟩

/-! ## The handle of an instance -/

/-- The place of the first memory of a module, if it has any. -/
def firstPlace (m : CompiledModule) : Option Nat := if m.outline.memories = [] then none else some 0

/-- **Both ways to the first memory** lead to its place, if the module can be linked. -/
theorem Instance.ofModule_memory (kept : Kept contents s) (named : s.module.NamesMemory) {externs : List Extern}
    (bound : s.imports.externs s.module.outline = .ok externs) :
    (Instance.ofModule s.module s.imports).memory = firstPlace s.module := by
  have foreign := kept.housed.foreign
  have has := (Imports.externs_memories kept.coherent.outline bound).2
  unfold Instance.ofModule firstPlace
  rw [named]
  cases created : s.imports.hasMemory with
  | true => rw [if_pos rfl, if_neg (kept.coherent.memories_ne_nil (foreign created))]
  | false =>
    have own : s.module.outline.isImportedMemory 0 = false := by
      rw [Outline.isImportedMemory, decide_eq_false_iff_not]
      intro imported
      rw [has imported] at created
      cases created
    simp only [own, Bool.false_eq_true, or_false, if_false]

/-- The handle of an instance stays what it is. -/
theorem Performs.handle (h : Performs s op s' reply) (kept : Kept contents s) (named : s.module.NamesMemory)
    (handle : ∀ i, s.live = some i → i.memory = firstPlace s.module) :
    ∀ i, s'.live = some i → i.memory = firstPlace s'.module := by
  cases h with
  | instantiates _ linked =>
    obtain ⟨externs, _, bound, _⟩ := link_ok linked
    rintro _ ⟨⟩
    exact Instance.ofModule_memory kept named bound
  | refused | declaresMemory | declaresGlobals | setsGlobal | getsGlobal | fails | starts | calls | hangs | reads
  | writes | setsTimer => exact handle

/-! ## What a host sees -/

/-- **What a host sees of the memory of an instance**: the first memory, unless there is none. -/
structure Shows (s : Session) : Prop where
  noMemory : s.memory = .error .noMemory ↔ s.module.outline.memories = []
  first : s.module.outline.memories ≠ [] →
    ∃ m, s.store.memories[0]? = some m ∧ s.memoryPlace = .ok 0 ∧ s.memory = .ok m.buffer

theorem Kept.shows (kept : Kept contents s) (live : s.phase = .instantiated)
    (handle : ∀ i, s.live = some i → i.memory = firstPlace s.module) : Shows s := by
  obtain ⟨i, here⟩ := Option.isSome_iff_exists.1 (kept.phased.live.2 live)
  have place := handle i here
  have size := kept.housed.live live
  rcases Decidable.em (s.module.outline.memories = []) with none | some
  · rw [firstPlace, if_pos none] at place
    refine ⟨iff_of_true ?_ none, fun some => absurd none some⟩
    simp only [memory, memoryPlace, here, place]
    rfl
  · rw [firstPlace, if_neg some] at place
    have inside : 0 < s.store.memories.size := by
      rw [size]
      exact List.length_pos_iff.2 some
    have there : s.memoryPlace = .ok 0 := by simp only [memoryPlace, here, place]
    have found := Array.getElem?_eq_getElem inside
    have seen : s.memory = .ok s.store.memories[0].buffer :=
      bind_eq_ok_iff.2 ⟨0, there, by simp only [found]; rfl⟩
    refine ⟨iff_of_false (fun none => ?_) some, fun _ => ⟨_, found, there, seen⟩⟩
    rw [seen] at none
    cases none

/-- **What a host is told of the first memory** holds of it whenever one looks. -/
structure Foretold (s : Session) : Prop where
  none : s.memoryPlan? = none ↔ s.module.outline.memories = []
  plan : ∀ plan, s.memoryPlan? = some plan → plan.isImported = s.module.outline.isImportedMemory 0 ∧
    (∀ memory, s.module.outline.primaryMemory? = some memory → plan.is64 = memory.is64) ∧
    ∀ op now, During s op now → ∀ m, now.memories[0]? = some m →
      m.is64 = plan.is64 ∧ plan.minimum ≤ m.pages ∧ ∀ most ∈ plan.maximum, m.pages ≤ most

/-- A memory that follows what is declared keeps to the plan that is made of that. -/
theorem MemoryPlan.bounds {memory : MemoryInfo} {isImported : Bool} {cap : Option Nat} {plan : MemoryPlan}
    (planned : ofMemory memory isImported cap = .ok plan) {m : LinearMemory}
    (fits : canStart (cap.map byteLimit) m.is64 m.pages) (follows : m.Follows cap memory) :
    m.is64 = plan.is64 ∧ plan.minimum ≤ m.pages ∧ ∀ most ∈ plan.maximum, m.pages ≤ most := by
  obtain ⟨_, rfl⟩ := ofMemory_ok_iff.1 planned
  obtain ⟨under, _⟩ := canStart_byteLimit_iff.1 fits
  have room := (follows.maximum m.pages under).1 follows.room
  exact ⟨follows.is64, follows.minimum, (le_effectiveMaximum_iff.1 (le_effectiveMaximum_lowered_iff.2 ⟨room, under⟩)).2⟩

/-- A plan that is made of the first memory of a module tells of it. -/
theorem Kept.foretold_of_plan (kept : Kept contents s) {memory : MemoryInfo} {plan : MemoryPlan}
    (primary : s.module.outline.primaryMemory? = some memory)
    (planned : MemoryPlan.ofMemory memory (s.module.outline.isImportedMemory 0) s.module.config.pageCap = .ok plan)
    (told : s.memoryPlan? = some plan) : Foretold s := by
  have is := (MemoryPlan.ofMemory_ok_iff.1 planned).2
  refine ⟨iff_of_false (by rw [told]; exact nofun) fun none => ?_, fun plan' same => ?_⟩
  · rw [Outline.primaryMemory?, none] at primary
    cases primary
  · cases told.symm.trans same
    refine ⟨by rw [is], fun memory' same => ?_, fun op now moment m found => ?_⟩
    · cases primary.symm.trans same
      rw [is]
    · obtain ⟨memory', same, fits, follows⟩ := (kept.housed.during kept.coherent kept.phased moment).each 0 m found
      rw [Outline.primaryMemory?, List.head?_eq_getElem?] at primary
      cases primary.symm.trans same
      exact MemoryPlan.bounds planned fits follows

theorem Kept.foretold (kept : Kept contents s) (declared : s.imports.memory.isSome) : Foretold s := by
  obtain ⟨b, memory⟩ := Option.isSome_iff_exists.1 declared
  have told : s.memoryPlan? = b.plan? := by rw [memoryPlan?, Imports.memoryPlan?, memory, Option.bind_some]
  cases kept.backed.backs b memory with
  | absent none =>
    rw [Outline.primaryMemory?, List.head?_eq_none_iff] at none
    refine ⟨iff_of_true told none, fun plan some => ?_⟩
    cases told.symm.trans some
  | defined primary own planned => exact kept.foretold_of_plan primary (own ▸ planned) told
  | imported primary foreign _ planned => exact kept.foretold_of_plan primary (foreign ▸ planned) told

/-- **Where the first memory of an instance comes from**, if a session was instantiated at some point: it is the
one that the host had created by then, or else the first one that the module defines. It may have grown since. -/
inductive Origin (start : Session) (now : Store) : Prop
  | nowhere (none : start.module.outline.memories = [])
  | host {plan : MemoryPlan} {m : LinearMemory} (foreign : start.module.outline.isImportedMemory 0)
      (declared : start.imports.memory = some (.imported plan)) (created : start.store.memories = #[plan.memory])
      (here : now.memories[0]? = some m) (becomes : Becomes start.store.memoryLimit plan.memory m)
  | module {t : MemoryType} {m : LinearMemory} (own : start.module.outline.isImportedMemory 0 = false)
      (first : start.module.image.memories.head? = some t) (here : now.memories[0]? = some m)
      (becomes : Becomes start.store.memoryLimit (memoryOf t) m)

theorem Kept.origin (kept : Kept contents s) (isOpen : s.phase.isOpen) {store now : Store}
    (linked : s.link = some (store, .ok ())) (ages : store.Ages now) : Origin s now := by
  obtain ⟨externs, bound, since⟩ := linked_ages linked
  have has := (Imports.externs_memories kept.coherent.outline bound).2
  have size := kept.housed.size kept.coherent isOpen bound
  obtain ⟨imported, count, infos⟩ := kept.coherent.outline_memories
  have later := since.trans ages
  rcases Nat.eq_zero_or_pos s.module.outline.importedMemories with none | foreign
  · -- the memories of the module are its own
    rw [none] at size count
    rw [List.length_eq_zero_iff.1 count, List.nil_append] at infos
    cases first : s.module.image.memories with
    | nil =>
      rw [first] at infos
      exact .nowhere infos
    | cons t others =>
      have here : (allocate (Machine.bind s.store externs) s.module.image).memories[0]? = some (memoryOf t) := by
        rw [allocate_memories, Array.eq_empty_of_size_eq_zero size, first, ← Array.getElem?_toList,
          Array.toList_appendList]
        rfl
      obtain ⟨m, there, becomes⟩ := later.memory 0 _ here
      rw [allocate_memoryLimit] at becomes
      refine .module ?_ (by rw [first]; rfl) there becomes
      rw [Outline.isImportedMemory, none]
      rfl
  · have created := has foreign
    unfold Imports.hasMemory at created
    split at created
    · rename_i plan declared
      have memories := kept.backed.created isOpen plan declared
      have here : (allocate (Machine.bind s.store externs) s.module.image).memories[0]? = some plan.memory := by
        rw [allocate_memories, memories, ← Array.getElem?_toList, Array.toList_appendList]
        rfl
      obtain ⟨m, there, becomes⟩ := later.memory 0 _ here
      rw [allocate_memoryLimit] at becomes
      exact .host (decide_eq_true foreign) declared memories there becomes
    · cases created

end

/-! ## All runs -/

theorem run_handle {contents : List Content} {s : Session} (kept : Kept contents s) (fresh : s.live = none)
    (named : s.module.NamesMemory) (ops : List Op) :
    ∀ i, (s.run ops).live = some i → i.memory = firstPlace (s.run ops).module := by
  refine (run_keeps_of_module
    (fun s' => Kept contents s' ∧ ∀ i, s'.live = some i → i.memory = firstPlace s'.module) ?_ ⟨kept, ?_⟩ ops).2
  · rintro s' op s'' reply same ⟨kept, handle⟩ performed
    exact ⟨performed.kept kept, performed.handle kept (same ▸ named) handle⟩
  · intro i live
    rw [fresh] at live
    cases live

/-- **The first memory.** Whatever operations a session has gone through, what was declared of the memory of its
module holds of that memory at every moment. An instance shows this memory, unless there is none: the one that
the host has created if the module imports it, and else the first one that the module defines. -/
theorem run_firstMemory {c : Config} {bytes : List UInt8} {s : Session} (h : compile c bytes = .ok s)
    (ops : List Op) :
    ((s.run ops).imports.memory.isSome → Foretold (s.run ops)) ∧
      ((s.run ops).phase = .instantiated → Shows (s.run ops) ∧
        ∃ front later, ops = front ++ .instantiate :: later ∧ (s.run front).phase.isOpen ∧
          Origin (s.run front) (s.run ops).store) := by
  obtain ⟨r, m, compiles, rfl⟩ := compile_ok h
  have start := ofModule_kept compiles.coherent
  have kept := run_kept start ops
  refine ⟨kept.foretold, fun live => ⟨kept.shows live (run_handle start rfl compiles.namesMemory ops), ?_⟩⟩
  obtain ⟨front, later, store, rfl, isOpen, linked⟩ := run_instantiates ops start.phased rfl live
  refine ⟨front, later, rfl, isOpen, (run_kept start front).origin isOpen linked ?_⟩
  have instantiated : ((ofModule m).run (front ++ [.instantiate])).store = store := by
    rw [run_append]
    exact congrArg Session.store (perform_instantiate isOpen linked)
  have ages := run_ages (run_kept start (front ++ [.instantiate])) later
  rw [instantiated, ← run_append, List.append_assoc] at ages
  exact ages

/-- A module that defines two memories and exports the second one twice. A function that it exports grows the
first one by a page. -/
def hiddenModule : List UInt8 :=
  Wasm.Sections.join
    [⟨Wasm.Section.typeId, [1, 0x60, 0, 1, 0x7f]⟩,
      ⟨Wasm.Section.functionId, [1, 0]⟩,
      ⟨Wasm.Section.memoryId, [2, 1, 1, 3, 0, 2]⟩,
      ⟨Wasm.Section.exportId, [3, 1, 0x61, 2, 1, 1, 0x62, 2, 1, 4, 0x67, 0x72, 0x6f, 0x77, 0, 0]⟩,
      ⟨Wasm.Section.codeId, [1, 6, 0, 0x41, 1, 0x40, 0, 0x0b]⟩]

/-- Grows the first memory as far as it goes, and writes to its last page. -/
def hiddenRun : List Op :=
  [.declareMemory, .instantiate, .call "grow" [], .call "grow" [], .call "grow" [], .writeMemory 196606 [1, 2]]

theorem run_firstMemory_hidden : ∃ s, compile { multiMemory := true } hiddenModule = .ok s ∧
    (s.run hiddenRun).store.memories.toList.map (·.pages) = [3, 2] ∧
    (s.run hiddenRun).memoryPlan? = some ⟨1, some 3, false, false⟩ ∧
    Foretold (s.run hiddenRun) ∧ Shows (s.run hiddenRun) ∧
    ∃ front later, hiddenRun = front ++ .instantiate :: later ∧ (s.run front).phase.isOpen ∧
      Origin (s.run front) (s.run hiddenRun).store := by
  obtain ⟨s, compiled, declared, live, sizes, plan⟩ : ∃ s, compile { multiMemory := true } hiddenModule = .ok s ∧
      (s.run hiddenRun).imports.memory.isSome ∧ (s.run hiddenRun).phase = .instantiated ∧
      (s.run hiddenRun).store.memories.toList.map (·.pages) = [3, 2] ∧
      (s.run hiddenRun).memoryPlan? = some ⟨1, some 3, false, false⟩ := by decide +kernel
  obtain ⟨foretold, shows⟩ := run_firstMemory compiled hiddenRun
  exact ⟨s, compiled, sizes, plan, foretold declared, shows live⟩

end WasmLens.Session
