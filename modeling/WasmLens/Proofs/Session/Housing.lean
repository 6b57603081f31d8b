import WasmLens.Proofs.Session.Globals
import WasmLens.Proofs.Session.Memories

/-!
# The memories of a session

`Housed` says how the memories of a store belong to those that the module declares: at first there is only
the one that the host has created, and an instance has all of them. Every operation keeps this, at every
moment of it (`Performs.housed`, `Housed.during`), so **no memory of any run gets larger than the limit of the
store and its own maximum let it** (`run_housed`).
-/
namespace WasmLens.Session

open Wasm Machine CompiledModule

/-- The byte limit, the cap and the declared memories of a module. -/
def MemoriesOf (m : CompiledModule) (now : Store) : Prop :=
  now.Houses (m.config.pageCap.map byteLimit) m.config.pageCap m.outline.memories

/-- **How the memories of a session belong to its module.** -/
structure Housed (s : Session) : Prop where
  houses : MemoriesOf s.module s.store
  foreign : s.imports.hasMemory → 0 < s.module.outline.importedMemories
  waiting : s.phase.isOpen → s.store.memories.size = s.imports.hasMemory.toNat
  live : s.phase = .instantiated → s.store.memories.size = s.module.outline.memories.length

theorem ofModule_housed (m : CompiledModule) : Housed (ofModule m) where
  houses := ⟨rfl, nofun⟩
  foreign := nofun
  waiting _ := rfl
  live := nofun

section

variable {contents : List Content} {s s' : Session} {op : Op} {reply : Reply}

/-! ## Instantiating -/

/-- What a module imports that can be bound is in the store. -/
theorem Housed.size (h : Housed s) (coherent : Coherent contents s.module) (isOpen : s.phase.isOpen)
    {externs : List Extern} (bound : s.imports.externs s.module.outline = .ok externs) :
    s.store.memories.size = s.module.outline.importedMemories := by
  obtain ⟨most, has⟩ := Imports.externs_memories coherent.outline bound
  have foreign := h.foreign
  have waiting := h.waiting isOpen
  cases created : s.imports.hasMemory with
  | true =>
    rw [created, Bool.toNat_true] at waiting
    have := foreign created
    omega
  | false =>
    rw [created, Bool.toNat_false] at waiting
    rcases Nat.eq_zero_or_pos s.module.outline.importedMemories with none | some
    · omega
    · rw [has some] at created
      cases created

/-- **Once a module is allocated**, the store has all of its memories. -/
theorem Housed.allocates (h : Housed s) (coherent : Coherent contents s.module) (isOpen : s.phase.isOpen)
    {externs : List Extern} (bound : s.imports.externs s.module.outline = .ok externs)
    (small : oversized? s.store.memoryLimit s.module.image.memories = none) :
    MemoriesOf s.module (allocate (Machine.bind s.store externs) s.module.image) ∧
      (allocate (Machine.bind s.store externs) s.module.image).memories.size =
        s.module.outline.memories.length := by
  have size := h.size coherent isOpen bound
  have houses := h.houses
  unfold MemoriesOf at houses ⊢
  obtain ⟨imported, count, infos⟩ := coherent.outline_memories
  rw [infos] at houses ⊢
  refine ⟨allocate_houses houses (size.trans count.symm) (fun t own => coherent.definedMemory_le own) small, ?_⟩
  rw [allocate_memories_size, List.length_map, List.length_append, size, count]

theorem Housed.link (h : Housed s) (coherent : Coherent contents s.module) (isOpen : s.phase.isOpen)
    {linked : Store × Except Error Unit} (link : s.link = some linked) : MemoriesOf s.module linked.1 :=
  link_keeps (P := fun _ => True) (I := MemoriesOf s.module) link (fun _ before changes => changes.houses before)
    s.module.program.within_all (fun alike before => alike.houses before) h.houses
    fun _ bound small => (h.allocates coherent isOpen bound small).1

/-- An instance has all memories of its module. -/
theorem Housed.linked (h : Housed s) (coherent : Coherent contents s.module) (isOpen : s.phase.isOpen)
    {store : Store} (linked : s.link = some (store, .ok ())) :
    store.memories.size = s.module.outline.memories.length := by
  obtain ⟨externs, ready, bound, _, small, alike, started⟩ := link_ok linked
  have kept := runStart_keeps (P := fun _ => True) (I := fun now => now.memories.size = ready.memories.size)
    (fun _ before changes => changes.memories_size.trans before) s.module.program.within_all started rfl
  rw [show store.memories.size = ready.memories.size from kept, alike.memories_size]
  exact (h.allocates coherent isOpen bound small).2

/-! ## Operations -/

/-- The memory that a host creates is the first one of the module. -/
theorem memoriesOf_created {m : CompiledModule} {store : Store} {memory : MemoryInfo} {isImported : Bool}
    {plan : MemoryPlan} {created : LinearMemory} (limit : store.memoryLimit = m.config.pageCap.map byteLimit)
    (primary : m.outline.primaryMemory? = some memory)
    (planned : MemoryPlan.ofMemory memory isImported m.config.pageCap = .ok plan)
    (made : plan.create store.memoryLimit = .ok created) :
    MemoriesOf m { store with memories := #[created] } := by
  obtain ⟨room, rfl⟩ := MemoryPlan.ofMemory_ok_iff.1 planned
  obtain ⟨_, _, fits, is⟩ := MemoryPlan.create_ok_iff.1 made
  have reached := LinearMemory.reached_of_canStart fits
  refine ⟨limit, fun k m' found => ?_⟩
  obtain ⟨rfl, rfl⟩ : k = 0 ∧ created = m' := by
    rcases k with _ | k
    · exact ⟨rfl, Option.some.inj found⟩
    · cases found
  rw [limit] at fits
  refine ⟨memory, List.head?_eq_getElem?.symm.trans primary, ?_, MemoryPlan.lowered_follows is reached room⟩
  rw [is, LinearMemory.pages_ofLimits]
  exact fits

/-- The bytes that a host reaches are those of a memory in the store. -/
theorem memory_ok {place : Nat} {buffer : Memory.Buffer} (here : s.memoryPlace = .ok place)
    (memory : s.memory = .ok buffer) : ∃ m, s.store.memories[place]? = some m ∧ m.buffer = buffer := by
  obtain ⟨_, found, memory⟩ := bind_eq_ok_iff.1 memory
  rw [here] at found
  cases found
  split at memory
  · rename_i m found
    exact ⟨m, found, pure_eq_ok_iff.1 memory⟩
  · cases memory

/-- A host that writes to a memory changes contents only. -/
theorem alike_of_written {place offset : Nat} {bytes : List UInt8} {before buffer : Memory.Buffer}
    (here : s.memoryPlace = .ok place) (memory : s.memory = .ok before)
    (written : before.write offset bytes = .ok buffer) :
    s.store.Alike { s.store with memories := s.store.memories.modify place ({ · with buffer }) } := by
  obtain ⟨m, found, rfl⟩ := memory_ok here memory
  have size : buffer.size = m.buffer.size := by
    unfold Memory.Buffer.write at written
    split at written <;> cases written
    exact m.buffer.store_size offset bytes
  refine ⟨rfl, rfl, rfl, Array.ext_getElem? fun k => ?_, rfl⟩
  simp only [Array.getElem?_map, Array.getElem?_modify]
  split
  · rename_i this
    subst this
    simp only [found, Option.map_some, LinearMemory.extent, LinearMemory.pages, LinearMemory.maximum,
      Memory.Buffer.pages, size]
  · rfl

/-- **Every operation** keeps the memories within their bounds. -/
theorem Performs.housed (h : Performs s op s' reply) (coherent : Coherent contents s.module)
    (phased : WellPhased s) (housed : Housed s) : Housed s' := by
  cases h with
  | refused | starts | hangs | getsGlobal | reads => exact housed
  | setsTimer => exact ⟨housed.houses, housed.foreign, housed.waiting, housed.live⟩
  | declaresMemory isOpen declared =>
    have waiting := housed.waiting isOpen
    cases Imports.declareMemory_declares declared with
    | again => exact ⟨housed.houses, housed.foreign, fun _ => waiting, nofun⟩
    | absent first | defined first =>
      refine ⟨housed.houses, nofun, fun _ => ?_, nofun⟩
      rw [Imports.hasMemory, first] at waiting
      exact waiting
    | imported _ primary foreign planned _ made =>
      exact ⟨memoriesOf_created housed.houses.memoryLimit primary planned made,
        fun _ => of_decide_eq_true foreign, fun _ => rfl, nofun⟩
  | declaresGlobals isOpen declared =>
    rcases Imports.declareGlobals_creates declared with ⟨rfl, rfl⟩ | ⟨globals, created, rfl⟩
    · exact ⟨housed.houses, housed.foreign, fun _ => housed.waiting isOpen, nofun⟩
    · obtain ⟨cells, rfl, _⟩ := created.cells
      exact ⟨⟨housed.houses.memoryLimit, housed.houses.each⟩, housed.foreign,
        fun _ => housed.waiting isOpen, nofun⟩
  | @setsGlobal name v _ _ set =>
    have way := Imports.sets s.imports s.store name v
    rw [set] at way
    cases way with
    | unknown | void => exact housed
    | writes | moves =>
      exact ⟨⟨housed.houses.memoryLimit, housed.houses.each⟩, housed.foreign, housed.waiting, housed.live⟩
  | fails isOpen linked => exact ⟨housed.link coherent isOpen linked, housed.foreign, nofun, nofun⟩
  | instantiates isOpen linked =>
    exact ⟨housed.link coherent isOpen linked, housed.foreign, nofun,
      fun _ => housed.linked coherent isOpen linked⟩
  | calls target live measured =>
    have closed := phased.live.1 live
    obtain ⟨houses, size⟩ := measure_keeps (P := fun _ => True)
      (I := fun now => MemoriesOf s.module now ∧ now.memories.size = s.store.memories.size)
      (fun _ before changes => ⟨changes.houses before.1, changes.memories_size.trans before.2⟩)
      s.module.program.within_all measured ⟨housed.houses, rfl⟩
    refine ⟨houses, housed.foreign, fun isOpen => ?_, fun _ => size.trans (housed.live closed)⟩
    rw [show s.phase = .instantiated from closed] at isOpen
    cases isOpen
  | writes here memory written =>
    have alike := alike_of_written here memory written
    exact ⟨alike.houses housed.houses, housed.foreign, fun isOpen => alike.memories_size.trans (housed.waiting isOpen),
      fun live => alike.memories_size.trans (housed.live live)⟩

/-- **At every moment of an operation**, too. -/
theorem Housed.during (h : Housed s) (coherent : Coherent contents s.module) (phased : WellPhased s)
    {now : Store} (moment : During s op now) : MemoriesOf s.module now := by
  have performed := performs s op
  refine moment.keeps (P := fun _ => True) (I := MemoriesOf s.module)
    (fun _ before changes => changes.houses before) s.module.program.within_all
    (fun alike before => alike.houses before) h.houses ?_
    fun _ isOpen bound small => (h.allocates coherent isOpen bound small).1
  rw [← performed.module]
  exact (performed.housed coherent phased h).houses

end

/-- **Whatever operations a session has gone through**, its memories are housed. -/
theorem run_housed {contents : List Content} {s : Session} (coherent : Coherent contents s.module)
    (phased : WellPhased s) (housed : Housed s) (ops : List Op) :
    WellPhased (s.run ops) ∧ Housed (s.run ops) := by
  refine run_keeps_of_module (fun s' => WellPhased s' ∧ Housed s') ?_ ⟨phased, housed⟩ ops
  rintro s' op s'' reply same ⟨phased, housed⟩ performed
  exact ⟨performed.wellPhased phased, performed.housed (same ▸ coherent) phased housed⟩

end WasmLens.Session
