import WasmLens.Proofs.Machine.Typing
import WasmLens.Proofs.Module.Program
import WasmLens.Proofs.Session.Backing

/-!
# The store of an instance

Code is checked against what a module declares, and it runs on the store of a session. A host binds memories and
globals, but no tables: at first there are none, and an instance has those that its module defines (`Tabled`). So **the
store of every instance suits the context that the code of its module was checked in** (`Kept.suits`).
-/
namespace WasmLens.Session

open Wasm Machine CompiledModule

/-- **How the tables of a session belong to its module.** -/
structure Tabled (contents : List Content) (s : Session) : Prop where
  waiting : s.phase.isOpen → s.store.tables = #[]
  live : s.phase = .instantiated →
    (s.store.tables.map Table.is64).toList = (contents.flatMap Content.tableTypes).map (·.is64)

theorem ofModule_tabled (contents : List Content) (m : CompiledModule) : Tabled contents (ofModule m) where
  waiting _ := rfl
  live := nofun

variable {contents : List Content} {s s' : Session} {op : Op} {reply : Reply}

/-! ## Instantiating -/

/-- The tables that a module defines are as wide as it says. -/
theorem widths_allocate (store : Store) (i : Image) :
    ((allocate store i).tables.map Table.is64).toList =
      (store.tables.map Table.is64).toList ++ i.tables.map (·.type.is64) := by
  rw [allocate, addGlobals_eq]
  simp only [Array.toList_map, Array.toList_appendList, List.map_append, List.map_map, List.append_cancel_left_eq]
  refine List.map_congr_left fun t _ => ?_
  simp [tableOf, Table.ofLimits]

/-- A module whose imports can be bound has only the tables that it defines. -/
theorem tableTypes_of_bound (coherent : Coherent contents s.module) {externs : List Extern}
    (bound : s.imports.externs s.module.outline = .ok externs) :
    contents.flatMap Content.tableTypes = s.module.image.tables.map (·.type) := by
  rw [coherent.image, Image.fills_tables.ofContents rfl coherent.ordered, List.map_flatMap]
  refine List.flatMap_congr fun content mem => ?_
  cases content with
  | imports items =>
    refine List.filterMap_eq_nil_iff.2 fun i among => ?_
    exact (Imports.externs_bindable coherent.outline bound i (List.mem_flatMap.2 ⟨_, mem, among⟩)).2
  | _ => rfl

/-- An instance has the tables of its module. -/
theorem Tabled.linked (h : Tabled contents s) (coherent : Coherent contents s.module) (isOpen : s.phase.isOpen)
    {store : Store} (linked : s.link = some (store, .ok ())) :
    (store.tables.map Table.is64).toList = (contents.flatMap Content.tableTypes).map (·.is64) := by
  obtain ⟨externs, ready, bound, _, _, alike, started⟩ := link_ok linked
  have kept := runStart_keeps (P := fun _ => True)
    (I := fun now => now.tables.map Table.is64 = ready.tables.map Table.is64)
    (fun _ before changes => changes.widths.trans before) s.module.program.within_all started rfl
  rw [show store.tables.map Table.is64 = ready.tables.map Table.is64 from kept, alike.widths, widths_allocate,
    show (Machine.bind s.store externs).tables = s.store.tables from rfl, h.waiting isOpen, Array.map_empty,
    tableTypes_of_bound coherent bound, List.map_map]
  exact List.nil_append _

/-! ## Operations -/

/-- **Every operation** keeps the tables those of the module. -/
theorem Performs.tabled (h : Performs s op s' reply) (coherent : Coherent contents s.module)
    (phased : WellPhased s) (tabled : Tabled contents s) : Tabled contents s' := by
  cases h with
  | refused | starts | hangs | getsGlobal | reads | setsTimer | writes => exact ⟨tabled.waiting, tabled.live⟩
  | declaresMemory isOpen declared =>
    have waiting := tabled.waiting isOpen
    cases Imports.declareMemory_declares declared <;> exact ⟨fun _ => waiting, nofun⟩
  | declaresGlobals isOpen declared =>
    have waiting := tabled.waiting isOpen
    rcases Imports.declareGlobals_creates declared with ⟨rfl, rfl⟩ | ⟨globals, created, rfl⟩
    · exact ⟨fun _ => waiting, nofun⟩
    · obtain ⟨cells, rfl, _⟩ := created.cells
      exact ⟨fun _ => waiting, nofun⟩
  | @setsGlobal name v _ _ set =>
    have way := Imports.sets s.imports s.store name v
    rw [set] at way
    cases way <;> exact ⟨tabled.waiting, tabled.live⟩
  | fails => exact ⟨nofun, nofun⟩
  | instantiates isOpen linked => exact ⟨nofun, fun _ => tabled.linked coherent isOpen linked⟩
  | calls _ live measured =>
    have kept := measure_keeps (P := fun _ => True)
      (I := fun now => now.tables.map Table.is64 = s.store.tables.map Table.is64)
      (fun _ before changes => changes.widths.trans before) s.module.program.within_all measured rfl
    refine ⟨fun isOpen => ?_, fun live => ?_⟩
    · rw [show s.phase = .instantiated from phased.live.1 live] at isOpen
      cases isOpen
    · rw [show Array.map Table.is64 _ = s.store.tables.map Table.is64 from kept]
      exact tabled.live live

theorem run_tabled (kept : Kept contents s) (tabled : Tabled contents s) (ops : List Op) :
    Tabled contents (s.run ops) :=
  (run_keeps (fun s' => Kept contents s' ∧ Tabled contents s')
    (fun _ _ _ _ before performed =>
      ⟨performed.kept before.1, performed.tabled before.1.coherent before.1.phased before.2⟩)
    ops ⟨kept, tabled⟩).2

/-! ## What code can rely on -/

/-- **The store of an instance** suits what its module declares. -/
theorem Kept.suits (kept : Kept contents s) (tabled : Tabled contents s) (live : s.phase = .instantiated)
    {context : Context} (declares : context.Declares contents) : s.store.Suits context where
  globals i cell g found declared := by
    obtain ⟨place, bound, here⟩ := Option.bind_eq_some_iff.1 found
    obtain ⟨c, there, typed⟩ := kept.wired.binds i place bound
    obtain rfl := Option.some.inj (here.symm.trans there)
    rw [← declares.entries, Context.entries, Array.getElem?_toList, declared] at typed
    exact (Option.some.inj typed).symm
  memories i m t found declared := by
    obtain ⟨info, here, _, follows⟩ := kept.housed.houses.each i m found
    rw [kept.coherent.outline.memories, ← Content.memories_entriesOf kept.coherent.ordered, ← declares.entries,
      Context.entries, List.getElem?_map, Array.getElem?_toList, declared] at here
    cases here
    exact follows.is64
  tables i t type found declared := by
    have widths := congrArg (·[i]?) (tabled.live live)
    simp only [← declares.tables, Array.toList_map, List.getElem?_map, Array.getElem?_toList, found, declared,
      Option.map_some, Option.some.injEq] at widths
    exact widths

end WasmLens.Session
