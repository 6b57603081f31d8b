import WasmLens.Proofs.Session.Declaring
import WasmLens.Proofs.Session.Provision

/-!
# Modules with all imports declared

What a host creates for an import is of the type that the import asks for: a memory starts out as it is
declared, and a cap only lowers its maximum (`MemoryPlan.memory_fits`); a cell has the type of its global, also
one that took the place of another (`Kept.mismatch?_eq_none`). So **a module that imports globals and one memory
can be linked once these are declared**, and what can still go wrong is its own doing (`run_instantiable`).
-/
namespace WasmLens.Session

open Wasm Machine LinearMemory CompiledModule

/-! ## Operations that have succeeded -/

/-- An operation has been performed in a run, and was not refused. -/
def Succeeds (s : Session) (ops : List Op) (op : Op) : Prop :=
  ∃ front later answer, ops = front ++ op :: later ∧ ((s.run front).perform op).2 = .ok answer

section

variable {contents : List Content} {s s' : Session} {op : Op} {reply : Reply} {ops : List Op}

/-- What has been declared stays declared. -/
theorem Performs.declared (h : Performs s op s' reply) :
    (s.imports.memory.isSome → s'.imports.memory.isSome) ∧ (s.imports.globals.isSome → s'.imports.globals.isSome) := by
  cases h with
  | refused | getsGlobal | fails | starts | instantiates | calls | hangs | reads | writes | setsTimer => exact ⟨id, id⟩
  | declaresMemory _ declared =>
    cases Imports.declareMemory_declares declared with
    | again => exact ⟨id, id⟩
    | absent | defined | imported => exact ⟨fun _ => rfl, id⟩
  | declaresGlobals _ declared =>
    rcases Imports.declareGlobals_creates declared with ⟨rfl, rfl⟩ | ⟨globals, _, rfl⟩
    · exact ⟨id, id⟩
    · exact ⟨id, fun _ => rfl⟩
  | @setsGlobal name v _ _ set =>
    have way := Imports.sets s.imports s.store name v
    rw [set] at way
    cases way with
    | unknown | void | writes => exact ⟨id, id⟩
    | moves => exact ⟨id, fun some => Option.isSome_map.trans some⟩

theorem run_declared (ops : List Op) :
    (s.imports.memory.isSome → (s.run ops).imports.memory.isSome) ∧
      (s.imports.globals.isSome → (s.run ops).imports.globals.isSome) :=
  ⟨run_keeps (·.imports.memory.isSome) (fun _ _ _ _ some performed => performed.declared.1 some) ops,
    run_keeps (·.imports.globals.isSome) (fun _ _ _ _ some performed => performed.declared.2 some) ops⟩

theorem Performs.declares_memory {answer : Answer} (h : Performs s .declareMemory s' (.ok answer)) :
    s'.imports.memory.isSome := by
  cases h with
  | declaresMemory _ declared =>
    cases Imports.declareMemory_declares declared with
    | again already => exact already
    | absent | defined | imported => rfl
  | calls target => cases target

theorem Performs.declares_globals {answer : Answer} (h : Performs s .declareGlobals s' (.ok answer)) :
    s'.imports.globals.isSome := by
  cases h with
  | declaresGlobals _ declared =>
    unfold Imports.declareGlobals at declared
    split at declared
    · rename_i already
      cases declared
      exact already
    · obtain ⟨_, _, eq⟩ := bind_eq_ok_iff.1 declared
      cases eq
      rfl
  | calls target => cases target

theorem Succeeds.memory (h : Succeeds s ops .declareMemory) : (s.run ops).imports.memory.isSome := by
  obtain ⟨front, later, answer, rfl, answered⟩ := h
  have performed := performs (s.run front) .declareMemory
  rw [answered] at performed
  rw [run_append]
  exact (run_declared later).1 performed.declares_memory

theorem Succeeds.globals (h : Succeeds s ops .declareGlobals) : (s.run ops).imports.globals.isSome := by
  obtain ⟨front, later, answer, rfl, answered⟩ := h
  have performed := performs (s.run front) .declareGlobals
  rw [answered] at performed
  rw [run_append]
  exact (run_declared later).2 performed.declares_globals

/-! ## Types of imports -/

/-- **A memory that is created as it is planned** is of the type that the import asks for. -/
theorem MemoryPlan.memory_fits {t : MemoryType} {isImported : Bool} {cap : Option Nat} {plan : MemoryPlan}
    (planned : ofMemory (Outline.memoryInfo t) isImported cap = .ok plan) (unshared : t.isShared = false) :
    plan.memory.fits t := by
  obtain ⟨_, rfl⟩ := ofMemory_ok_iff.1 planned
  have minimum : t.limits.minimum ≤ (ofLimits t.limits.minimum (lowered t.limits.maximum cap) t.is64).pages :=
    Nat.le_of_eq (pages_ofLimits ..).symm
  have maximum : t.limits.maximum.all fun most => (lowered t.limits.maximum cap).any (· ≤ most) := by
    cases t.limits.maximum with
    | none => rfl
    | some most =>
      cases cap with
      | none => simp [lowered]
      | some c => exact decide_eq_true (Nat.min_le_left most c)
  simp only [LinearMemory.fits, Bool.and_eq_true, decide_eq_true_eq, Bool.not_eq_true']
  exact ⟨⟨⟨rfl, unshared⟩, minimum⟩, maximum⟩

/-- The first memory that is imported is the first one of the module. -/
theorem primaryMemory?_of_imported (coherent : Coherent contents s.module) {t : MemoryType}
    (first : ((contents.flatMap Content.importItems).filterMap (·.memoryType?))[0]? = some t) :
    s.module.outline.primaryMemory? = some (Outline.memoryInfo t) := by
  rw [Outline.primaryMemory?, coherent.outline.memories, List.head?_eq_getElem?, List.getElem?_map,
    List.getElem?_append_left (List.getElem?_eq_some_iff.1 first).1, first, Option.map_some]

/-- What is bound to an import is of its type. -/
theorem Kept.binding_fits (kept : Kept contents s) {p : Nat} {i : Import} {m : ModuleImport} {e : Extern}
    {front : List ModuleImport} (here : s.module.image.imports[p]? = some i)
    (found : s.module.outline.imports[p]? = some m) (binding : Binding s front m.entity e) : e.fits s.store i.desc := by
  have shown := kept.coherent.outline.imports
  rw [kept.coherent.imports] at here
  generalize entity : m.entity = entity at binding
  cases binding with
  | @memory plan declared created =>
    obtain ⟨t, same, first⟩ := shown.memory found entity
    cases here.symm.trans same
    have primary := primaryMemory?_of_imported kept.coherent first
    cases kept.backed.backs _ declared with
    | imported primary' _ unshared planned =>
      cases primary.symm.trans primary'
      simp only [Extern.fits, created]
      exact MemoryPlan.memory_fits planned unshared
  | @global g declared =>
    obtain ⟨_, t, same, numbered⟩ := shown.global found entity
    cases here.symm.trans same
    obtain ⟨c, there, typed⟩ := (kept.wired.global declared).cells _ g declared
    cases numbered.symm.trans typed
    simp only [Extern.fits, there, Option.any_some, decide_true]

/-- **The machine finds nothing wrong** with what is bound to the imports of a module. -/
theorem Kept.mismatch?_eq_none (kept : Kept contents s) (isOpen : s.phase.isOpen) {externs : List Extern}
    (bound : s.imports.externs s.module.outline = .ok externs) :
    mismatch? s.store externs s.module.image.imports = none := by
  have shown := kept.coherent.outline.imports
  rw [Imports.externs_eq_mapM kept.coherent.outline] at bound
  obtain ⟨length, each⟩ := mapM_getElem? bound
  have count : externs.length = s.module.image.imports.length := by
    rw [length, kept.coherent.imports, shown.length]
  rw [mismatch?, if_neg (not_not.2 count), Option.map_eq_none_iff, List.find?_eq_none]
  rintro ⟨i, e⟩ mem
  obtain ⟨p, at_⟩ := List.mem_iff_getElem?.1 mem
  obtain ⟨here, there⟩ := List.getElem?_zip_eq_some.1 at_
  have inside : p < s.module.outline.imports.length := by
    rw [← length]
    exact (List.getElem?_eq_some_iff.1 there).1
  have found := List.getElem?_eq_getElem inside
  obtain ⟨e', provided, there'⟩ := each p _ found
  cases there.symm.trans there'
  have fits := kept.binding_fits here found (kept.binding isOpen found (Imports.provide_eq_ok_iff.1 provided))
  simpa using fits

/-! ## What can still go wrong -/

/-- The ways in which a module is not instantiated whose imports are all there and of their types. -/
inductive Fails (s : Session) (externs : List Extern) : Fault → Prop
  /-- A segment traps that is copied at once. -/
  | segments {store : Store} {cause : Trap}
      (placed : placeSegments (allocate (Machine.bind s.store externs) s.module.image) s.module.image =
        .trap store cause) : Fails s externs (.refused (.trap cause.message))
  /-- The start function traps. -/
  | start {ready store : Store} {func : Nat} {cause : Trap}
      (prepared : prepare s.store externs s.module.image s.module.config.bulkMemory = .ready ready)
      (start : s.module.image.start = some func)
      (called : Machine.call s.module.program ready func [] = some (.trapped store cause)) :
      Fails s externs (.refused (.trap cause.message))
  /-- The start function never ends. -/
  | endless {ready : Store} {func : Nat}
      (prepared : prepare s.store externs s.module.image s.module.config.bulkMemory = .ready ready)
      (start : s.module.image.start = some func)
      (called : Machine.call s.module.program ready func [] = none) : Fails s externs .endless
  /-- Without bulk memory, a segment that does not fit is not even tried. -/
  | elements (old : s.module.config.bulkMemory = false)
      (unfit : elementsFit (allocate (Machine.bind s.store externs) s.module.image) s.module.image = false) :
      Fails s externs (.refused (.link LinkFault.elementsDoNotFit.message))
  | data (old : s.module.config.bulkMemory = false)
      (unfit : dataFits (allocate (Machine.bind s.store externs) s.module.image) s.module.image = false) :
      Fails s externs (.refused (.link LinkFault.dataDoesNotFit.message))
  /-- A memory besides the first one needs more pages than the cap. -/
  | memory {k : Nat} {info : MemoryInfo} (further : 0 < k) (declared : s.module.outline.memories[k]? = some info)
      (beyond : ∃ c ∈ s.module.config.pageCap, c < info.minimum) :
      Fails s externs (.refused (.link (LinkFault.memoryLimit info.minimum).message))

/-- A module is refused for a memory that it defines. -/
theorem oversized?_eq_some {limit : Option Nat} {memories : List MemoryType} {minimum : Nat}
    (h : oversized? limit memories = some minimum) :
    ∃ (j : Nat) (t : MemoryType), memories[j]? = some t ∧ t.limits.minimum = minimum ∧
      canStart limit t.is64 t.limits.minimum = false := by
  obtain ⟨t, found, rfl⟩ := Option.map_eq_some_iff.1 h
  obtain ⟨j, at_⟩ := List.mem_iff_getElem?.1 (List.mem_of_find?_eq_some found)
  exact ⟨j, t, at_, rfl, by simpa using List.find?_some found⟩

/-- **The first memory is not too large** once it has been declared. -/
theorem Kept.first_under (kept : Kept contents s) (declared : s.imports.memory.isSome)
    (own : s.module.outline.importedMemories = 0) {info : MemoryInfo}
    (primary : s.module.outline.primaryMemory? = some info) : ∀ c ∈ s.module.config.pageCap, info.minimum ≤ c := by
  obtain ⟨b, memory⟩ := Option.isSome_iff_exists.1 declared
  obtain ⟨t, sound, rfl⟩ := primaryMemory_sound kept.coherent primary
  cases kept.backed.backs b memory with
  | absent none => cases none.symm.trans primary
  | defined primary' _ planned =>
    cases primary.symm.trans primary'
    exact (ofMemory_capped_iff sound false).1 ⟨_, planned⟩
  | imported _ foreign =>
    rw [Outline.isImportedMemory, own] at foreign
    cases foreign

/-- A module is refused for a memory besides the first one only. -/
theorem Kept.fails_oversized (kept : Kept contents s) (declared : s.imports.memory.isSome)
    (resources : ∀ t ∈ s.module.image.memories, t.limits.minimum ≤ addressable t.is64) {externs : List Extern}
    {minimum : Nat} (large : oversized? s.store.memoryLimit s.module.image.memories = some minimum) :
    Fails s externs (.refused (.link (LinkFault.memoryLimit minimum).message)) := by
  obtain ⟨j, t, defined, rfl, unfit⟩ := oversized?_eq_some large
  obtain ⟨imported, count, infos⟩ := kept.coherent.outline_memories
  have here : s.module.outline.memories[imported.length + j]? = some (Outline.memoryInfo t) := by
    rw [infos, List.getElem?_map, List.getElem?_append_right (Nat.le_add_right _ _), Nat.add_sub_cancel_left, defined,
      Option.map_some]
  have reached := resources t (List.mem_of_getElem? defined)
  have beyond : ∃ c ∈ s.module.config.pageCap, c < t.limits.minimum := by
    rw [kept.housed.houses.memoryLimit, ← Bool.not_eq_true, canStart_byteLimit_iff, and_iff_left reached] at unfit
    by_contra under
    exact unfit fun c here => Nat.le_of_not_lt fun past => under ⟨c, here, past⟩
  have further : 0 < imported.length + j := by
    -- the first memory of a module that defines it is declared under the cap
    refine Nat.pos_of_ne_zero fun first => ?_
    rw [first, ← List.head?_eq_getElem?] at here
    obtain ⟨c, cap, past⟩ := beyond
    exact absurd past (Nat.not_lt.2 (kept.first_under declared (by omega) here c cap))
  exact @Fails.memory s externs _ (Outline.memoryInfo t) further here beyond

/-- **What an instantiation fails with** when the memory has been declared. -/
theorem Kept.fails (kept : Kept contents s) (isOpen : s.phase.isOpen) (declared : s.imports.memory.isSome)
    (resources : ∀ t ∈ s.module.image.memories, t.limits.minimum ≤ addressable t.is64) {externs : List Extern}
    (bound : s.imports.externs s.module.outline = .ok externs) {store : Store} {cause : Error}
    (failed : s.link = some (store, .error cause)) : Fails s externs (.refused cause) := by
  rw [link_of_externs bound] at failed
  obtain ⟨outcome, instantiated, answer⟩ := Option.map_eq_some_iff.1 failed
  have way := instantiates s.store externs s.module.image s.module.program s.module.config.bulkMemory
  rw [instantiated] at way
  generalize told : some outcome = result at way
  cases way with
  | mismatched wrong =>
    rw [kept.mismatch?_eq_none isOpen bound] at wrong
    cases wrong
  | unprepared _ unready =>
    cases told
    have way := prepares s.store externs s.module.image s.module.config.bulkMemory
    generalize prepare s.store externs s.module.image s.module.config.bulkMemory = outcome at way answer unready
    cases way with
    | oversized large =>
      cases answer
      exact kept.fails_oversized declared resources large
    | elements _ unfit old =>
      cases answer
      exact .elements old unfit
    | data _ unfit old =>
      cases answer
      exact .data old unfit
    | segments _ _ placed =>
      cases answer
      exact .segments placed
    | ready => exact absurd rfl (unready _)
  | @prepared ready _ prepared =>
    cases outcome with
    | ready => cases answer
    | unlinkable => exact absurd told.symm runStart_eq_unlinkable
    | trapped =>
      cases answer
      obtain ⟨func, start, called⟩ := runStart_eq_trapped_iff.1 told.symm
      exact .start prepared start called

/-- A module whose instantiation never ends has a start function that does not. -/
theorem fails_endless {externs : List Extern} (bound : s.imports.externs s.module.outline = .ok externs)
    (endless : s.link = none) : Fails s externs .endless := by
  obtain ⟨_, ready, func, same, _, prepared, start, called⟩ := link_eq_none_iff.1 endless
  cases bound.symm.trans same
  exact .endless prepared start called

/-- Something is declared for every import, if these are globals and at most one memory. -/
theorem Kept.not_unprovided (kept : Kept contents s)
    (kinds : ∀ m ∈ s.module.outline.imports, m.entity.kind = .global ∨ m.entity.kind = .memory)
    (single : s.module.outline.importedMemories ≤ 1) (memory : s.imports.memory.isSome)
    (globals : s.imports.globals.isSome) : ∀ m ∈ s.module.outline.imports, ¬Unprovided s.imports m := by
  intro m mem
  obtain ⟨p, found⟩ := List.mem_iff_getElem?.1 mem
  unfold Unprovided
  cases entity : m.entity with
  | function | table =>
    rcases kinds m mem with kind | kind <;> rw [entity] at kind <;> cases kind
  | global => exact Option.isSome_iff_ne_none.1 globals
  | memory index =>
    obtain ⟨t, _, numbered⟩ := kept.coherent.outline.imports.memory found entity
    have inside := (List.getElem?_eq_some_iff.1 numbered).1
    rw [← kept.coherent.outline.importedMemories] at inside
    exact not_or.2 ⟨not_not.2 (by omega), Option.isSome_iff_ne_none.1 memory⟩

end

/-! ## All runs -/

/-- **Modules with all imports declared.** A module that imports globals and at most one memory can be linked once
the memory and the globals have been declared, whatever a host has set the globals to: none of its imports is
missing, and each is bound to something of its type. All that it can fail with are traps of its segments and of
its start function, a segment that does not fit if there is no bulk memory, and a memory besides the first one
that needs more pages than the cap; and a start function may never end. -/
theorem run_instantiable {c : Config} {bytes : List UInt8} {s : Session} (h : compile c bytes = .ok s)
    (kinds : ∀ m ∈ s.module.outline.imports, m.entity.kind = .global ∨ m.entity.kind = .memory)
    (single : s.module.outline.importedMemories ≤ 1)
    (resources : ∀ t ∈ s.module.image.memories, t.limits.minimum ≤ addressable t.is64) (ops : List Op)
    (isOpen : (s.run ops).phase.isOpen) (memory : Succeeds s ops .declareMemory)
    (globals : Succeeds s ops .declareGlobals) :
    ∃ externs, (s.run ops).imports.externs s.module.outline = .ok externs ∧
      mismatch? (s.run ops).store externs s.module.image.imports = none ∧
      ∀ fault, ((s.run ops).perform .instantiate).2 = .error fault → Fails (s.run ops) externs fault := by
  obtain ⟨r, _, start⟩ := compile_kept h
  have kept := run_kept start ops
  rw [← run_module s ops] at kinds single resources ⊢
  cases bound : (s.run ops).imports.externs (s.run ops).module.outline with
  | error m =>
    obtain ⟨front, back, split, _, unprovided⟩ := kept.externs_eq_error_iff.1 bound
    have provided := kept.not_unprovided kinds single memory.memory globals.globals
    exact absurd unprovided (provided m (split ▸ List.mem_append_right front List.mem_cons_self))
  | ok externs =>
    refine ⟨externs, rfl, kept.mismatch?_eq_none isOpen bound, fun fault answered => ?_⟩
    have performed := performs (s.run ops) .instantiate
    rw [answered] at performed
    generalize ((s.run ops).perform .instantiate).1 = s' at performed
    cases performed with
    | refused early =>
      rw [early rfl] at isOpen
      cases isOpen
    | fails _ linked => exact kept.fails isOpen memory.memory resources bound linked
    | starts _ endless => exact fails_endless bound endless
    | hangs target => cases target

/-- A module that imports an immutable global, a memory of one to four pages and a mutable global. A byte goes to
where the first global says. -/
def placingModule : List UInt8 :=
  Wasm.Sections.join
    [⟨Wasm.Section.importId, [3, 1, 0x65, 1, 0x61, 3, 0x7f, 0, 1, 0x65, 1, 0x6d, 2, 1, 1, 4,
        1, 0x65, 1, 0x62, 3, 0x7e, 1]⟩,
      ⟨Wasm.Section.dataId, [1, 0, 0x23, 0, 0x0b, 1, 7]⟩]

/-- The immutable global gets another cell before it is bound. -/
def placingRun : List Op :=
  [.declareMemory, .declareGlobals, .setGlobal "a" (.i32 65535), .setGlobal "b" (.i64 1)]

theorem run_instantiable_placing : ∃ s, compile { maxMemoryPages := some 2 } placingModule = .ok s ∧
    (s.run placingRun).globalImports.map (·.cell) = [2, 1] ∧
    ((s.run placingRun).perform .instantiate).2 = .ok .done ∧
    ∃ externs, (s.run placingRun).imports.externs s.module.outline = .ok externs ∧
      mismatch? (s.run placingRun).store externs s.module.image.imports = none := by
  obtain ⟨s, compiled, kinds, single, resources, isOpen, memory, globals, cells, done⟩ :
      ∃ s, compile { maxMemoryPages := some 2 } placingModule = .ok s ∧
        (∀ m ∈ s.module.outline.imports, m.entity.kind = .global ∨ m.entity.kind = .memory) ∧
        s.module.outline.importedMemories ≤ 1 ∧
        (∀ t ∈ s.module.image.memories, t.limits.minimum ≤ addressable t.is64) ∧
        (s.run placingRun).phase.isOpen ∧
        (s.perform .declareMemory).2 = .ok (.plan (some ⟨1, some 2, false, true⟩)) ∧
        ((s.run [.declareMemory]).perform .declareGlobals).2 = .ok .done ∧
        (s.run placingRun).globalImports.map (·.cell) = [2, 1] ∧
        ((s.run placingRun).perform .instantiate).2 = .ok .done := by decide +kernel
  obtain ⟨externs, bound, fits, _⟩ := run_instantiable compiled kinds single resources placingRun isOpen
    ⟨[], _, _, rfl, memory⟩ ⟨[.declareMemory], _, _, rfl, globals⟩
  exact ⟨s, compiled, cells, done, externs, bound, fits⟩

/-- A module that imports a memory of one page. A byte goes behind its end. -/
def unfittingModule : List UInt8 :=
  Wasm.Sections.join
    [⟨Wasm.Section.importId, [1, 1, 0x6d, 1, 0x6d, 2, 0, 1]⟩,
      ⟨Wasm.Section.dataId, [1, 0, 0x41, 0x80, 0x80, 4, 0x0b, 1, 7]⟩]

/-- **Without bulk memory** a module with all imports declared can fail by something else than a trap, or a memory
besides the first one. -/
theorem instantiate_unfitting : ∃ s, compile { bulkMemory := false, referenceTypes := false } unfittingModule = .ok s ∧
    (∀ m ∈ s.module.outline.imports, m.entity.kind = .global ∨ m.entity.kind = .memory) ∧
    s.module.outline.memories.length = 1 ∧
    (s.perform .declareMemory).2 = .ok (.plan (some ⟨1, none, false, true⟩)) ∧
    ((s.run [.declareMemory]).perform .declareGlobals).2 = .ok .done ∧
    ((s.run [.declareMemory, .declareGlobals]).perform .instantiate).2 =
      .error (.refused (.link "memory out of bounds: data segment does not fit")) := by
  decide +kernel

end WasmLens.Session
