import WasmLens.Proofs.Session.Globals
import WasmLens.Proofs.Session.Memories

/-!
# How sessions are wired

`Wired` says how the declared globals of a session belong to its binary and to its instance. Every operation
keeps it, and the store behind an operation descends from the one before, however the operation ends
(`Performs.wired`): **no cell is ever lost, changes its type, or changes its value if it is immutable**.
-/
namespace WasmLens.Session

open Wasm Machine CompiledModule

/-- **How the globals of a session belong together**: those of the binary, those that are declared, and those
of the instance. -/
structure Wired (contents : List Content) (s : Session) : Prop where
  provided : ∀ globals, s.imports.globals = some globals →
    Provided (contents.flatMap Content.importItems) globals s.store
  binds : s.store.Binds (Content.entriesOf contents).globals
  linked : s.phase = .instantiated →
    s.imports.globalList.length = ((contents.flatMap Content.importItems).filterMap (·.globalType?)).length ∧
      ∀ (k : Nat) g, s.imports.globalList[k]? = some g → s.store.bound[k]? = some g.cell

theorem ofModule_wired (contents : List Content) (m : CompiledModule) : Wired contents (ofModule m) where
  provided := nofun
  binds := by simp [ofModule, Store.Binds]
  linked := nofun

section

variable {contents : List Content} {s s' : Session} {op : Op} {reply : Reply}

/-- A global that is declared is one of the binary. -/
theorem Wired.global (h : Wired contents s) {k : Nat} {g : GlobalImport}
    (found : s.imports.globalList[k]? = some g) :
    Provided (contents.flatMap Content.importItems) s.imports.globalList s.store := by
  cases globals : s.imports.globals with
  | none =>
    rw [Imports.globalList, globals] at found
    cases found
  | some list =>
    have eq : s.imports.globalList = list := by rw [Imports.globalList, globals, Option.getD_some]
    rw [eq]
    exact h.provided list globals

/-! ## Module code -/

/-- What is kept of a store while code of a module runs. -/
structure Runs (contents : List Content) (before now : Store) : Prop where
  descends : before.Descends now
  binds : now.Binds (Content.entriesOf contents).globals

theorem Runs.changes {before now now' : Store} {op : Operator}
    (allowed : SetsMutable (Content.entriesOf contents).globals op) (h : Runs contents before now)
    (changes : now.Changes op now') : Runs contents before now' :=
  have next := changes.descends h.binds allowed
  ⟨h.descends.trans next, h.binds.descends changes.bound next⟩

theorem Runs.alike {before now now' : Store} (alike : now.Alike now') (h : Runs contents before now) :
    Runs contents before now' :=
  have next := Store.Descends.of_eq alike.globals
  ⟨h.descends.trans next, h.binds.descends alike.bound next⟩

/-- **The imported globals of a module that can be linked** are all declared, and bound in their order. -/
theorem Wired.cells (h : Wired contents s) (coherent : Coherent contents s.module) {externs : List Extern}
    (bound : s.imports.externs s.module.outline = .ok externs) :
    externs.filterMap Extern.cell? = s.imports.globalList.map (·.cell) ∧
      s.imports.globalList.length =
        ((contents.flatMap Content.importItems).filterMap (·.globalType?)).length := by
  have count : (s.module.outline.imports.filterMap (·.globalName?)).length =
      ((contents.flatMap Content.importItems).filterMap (·.globalType?)).length := by
    rw [coherent.outline.imports.globalNames, Import.length_globalNames]
  rw [← count]
  refine Imports.externs_cells bound ?_
  rw [count]
  cases globals : s.imports.globals with
  | none =>
    rw [Imports.globalList, globals]
    exact Nat.zero_le _
  | some list =>
    rw [Imports.globalList, globals, Option.getD_some]
    exact Nat.le_of_eq (h.provided list globals).length

theorem Wired.allocates (h : Wired contents s) (coherent : Coherent contents s.module) {externs : List Extern}
    (bound : s.imports.externs s.module.outline = .ok externs) :
    Runs contents s.store (allocate (bind s.store externs) s.module.image) := by
  obtain ⟨cells, length⟩ := h.cells coherent bound
  refine ⟨.of_front (allocate_extends ..).globals, ?_⟩
  rw [coherent.globals]
  refine allocate_binds ?_ fun k place found => ?_
  · rw [cells, List.length_map, length, coherent.importedGlobals]
  · rw [cells, List.getElem?_map] at found
    obtain ⟨g, here, rfl⟩ := Option.map_eq_some_iff.1 found
    rw [coherent.importedGlobals]
    exact (h.global here).cells k g here

/-- Linking keeps the cells, whatever comes of it. -/
theorem Wired.link (h : Wired contents s) (coherent : Coherent contents s.module)
    {linked : Store × Except Error Unit} (link : s.link = some linked) : Runs contents s.store linked.1 :=
  link_keeps link Runs.changes coherent.setsMutable Runs.alike ⟨.refl _, h.binds⟩
    fun _ bound _ => h.allocates coherent bound

/-- Where an instance is once it is there. -/
theorem Wired.links (h : Wired contents s) (coherent : Coherent contents s.module) {store : Store}
    (linked : s.link = some (store, .ok ())) {k : Nat} {g : GlobalImport}
    (found : s.imports.globalList[k]? = some g) : store.bound[k]? = some g.cell := by
  obtain ⟨externs, ready, bound, _, _, alike, started⟩ := link_ok linked
  have here : (externs.filterMap Extern.cell?)[k]? = some g.cell := by
    rw [(h.cells coherent bound).1, List.getElem?_map, found, Option.map_some]
  have kept := runStart_keeps (P := fun _ => True) (I := fun now => now.bound = ready.bound)
    (fun _ before changes => changes.bound.trans before) s.module.program.within_all started rfl
  rw [show store.bound = ready.bound from kept, alike.bound]
  exact allocate_bound here

/-! ## One operation -/

/-- Sessions that differ in nothing that matters but the values of cells. -/
theorem Wired.descends (h : Wired contents s) (globals : s'.imports.globals = s.imports.globals)
    (bound : s'.store.bound = s.store.bound) (phase : s'.phase = .instantiated → s.phase = .instantiated)
    (descends : s.store.Descends s'.store) : Wired contents s' where
  provided list declared := (h.provided list (globals ▸ declared)).descends descends
  binds := h.binds.descends bound descends
  linked live := by
    rw [Imports.globalList, globals, bound]
    exact h.linked (phase live)

/-- **An operation keeps the wiring**, and all cells. -/
theorem Performs.wired (h : Performs s op s' reply) (coherent : Coherent contents s.module)
    (phased : WellPhased s) (wired : Wired contents s) : Wired contents s' ∧ s.store.Descends s'.store := by
  cases h with
  | refused | starts | hangs | getsGlobal | reads => exact ⟨wired, .refl _⟩
  | setsTimer | writes => exact ⟨wired.descends rfl rfl id (.of_eq rfl), .of_eq rfl⟩
  | declaresMemory isOpen declared =>
    cases Imports.declareMemory_declares declared
    all_goals exact ⟨wired.descends rfl rfl nofun (.of_eq rfl), .of_eq rfl⟩
  | declaresGlobals isOpen declared =>
    rcases Imports.declareGlobals_creates declared with ⟨rfl, rfl⟩ | ⟨globals, created, rfl⟩
    · exact ⟨⟨wired.provided, wired.binds, nofun⟩, .refl _⟩
    · have provided := created.provided coherent
      obtain ⟨cells, rfl, _⟩ := created.cells
      have descends : s.store.Descends { s.store with globals := s.store.globals ++ cells } :=
        .of_front (by rw [Array.toList_appendList]; exact List.prefix_append ..)
      refine ⟨⟨?_, wired.binds.descends rfl descends, nofun⟩, descends⟩
      rintro _ ⟨⟩
      exact provided
  | @setsGlobal name v _ _ set =>
    have way := Imports.sets s.imports s.store name v
    rw [set] at way
    cases way with
    | unknown | void => exact ⟨wired, .refl _⟩
    | writes found value mutable cell isOpen put =>
      have descends := Store.Descends.setCell cell (Cell.put?_eq_some put).1 isOpen
      exact ⟨wired.descends rfl rfl id descends, descends⟩
    | @moves g place _ c c' found value immutable free cell made =>
      have descends : s.store.Descends { s.store with globals := s.store.globals.push c' } :=
        .of_front (by rw [Array.toList_push]; exact List.prefix_append ..)
      refine ⟨⟨?_, wired.binds.descends rfl descends, fun live => ?_⟩, descends⟩
      · intro globals declared
        obtain ⟨list, before, rfl⟩ := Option.map_eq_some_iff.1 declared
        have resolved := (Imports.global?_eq_some_iff.1 found).found
        rw [Imports.globalList, before, Option.getD_some] at resolved
        exact (wired.provided list before).move resolved cell (Cell.ofVal?_eq_some made).1
      · -- an instance would use the cell
        rw [phased.bound.2 live] at free
        cases free
  | fails isOpen linked =>
    have kept := wired.link coherent linked
    refine ⟨⟨fun globals declared => ?_, kept.binds, nofun⟩, kept.descends⟩
    exact (wired.provided globals declared).descends kept.descends
  | instantiates isOpen linked =>
    have kept := wired.link coherent linked
    refine ⟨⟨fun globals declared => ?_, kept.binds, fun _ => ⟨?_, ?_⟩⟩, kept.descends⟩
    · exact (wired.provided globals declared).descends kept.descends
    · obtain ⟨externs, _, bound, _⟩ := link_ok linked
      exact (wired.cells coherent bound).2
    · exact fun k g found => wired.links coherent linked found
  | calls target live measured =>
    have kept := measure_keeps (I := fun now => Runs contents s.store now ∧ now.bound = s.store.bound)
      (fun allowed before changes => ⟨before.1.changes allowed changes, changes.bound.trans before.2⟩)
      coherent.setsMutable measured ⟨⟨.refl _, wired.binds⟩, rfl⟩
    exact ⟨wired.descends rfl kept.2 id kept.1.descends, kept.1.descends⟩

end

/-! ## Runs -/

/-- **Whatever operations a session has gone through**, it is wired, and its cells descend from the first
ones. -/
theorem run_wired {contents : List Content} {s : Session} (coherent : Coherent contents s.module)
    (phased : WellPhased s) (wired : Wired contents s) (ops : List Op) :
    WellPhased (s.run ops) ∧ Wired contents (s.run ops) ∧ s.store.Descends (s.run ops).store := by
  refine run_keeps_of_module (fun s' => WellPhased s' ∧ Wired contents s' ∧ s.store.Descends s'.store) ?_
    ⟨phased, wired, .refl _⟩ ops
  rintro s' op s'' reply same ⟨phased, wired, descends⟩ performed
  obtain ⟨next, onward⟩ := performed.wired (same ▸ coherent) phased wired
  exact ⟨performed.wellPhased phased, next, descends.trans onward⟩

end WasmLens.Session
