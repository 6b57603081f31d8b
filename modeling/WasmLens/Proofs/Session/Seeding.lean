import WasmLens.Proofs.Session.Addressing
import WasmLens.Proofs.Session.Provision

/-!
# Declaring the globals of a module

Three lists are walked side by side when globals are declared: the imports as a host sees them, the
descriptions of all globals, and the types that the engine lists. They go together because imported globals
come first (`Lockstep`). So **the globals of every compiled module can be declared**, and each of them starts
out as the zero of its type (`run_declaresGlobals`).
-/
namespace WasmLens

open Wasm Machine Session

/-! ## What goes together -/

/-- What a host is to see of an imported global. -/
def Wasm.Import.shownGlobal? (i : Import) : Option (String × String × ValueType × Bool) :=
  i.globalType?.map fun t => (i.module, i.name, t.content.reflect, t.isMutable)

/-- Names and types of globals, taken together. -/
theorem Wasm.Import.zip_globals (items : List Import) :
    List.zipWith (fun n (i : GlobalInfo) => (n.1, n.2, i.type, i.isMutable)) (items.filterMap (·.globalName?))
      ((items.filterMap (·.globalType?)).map Outline.globalInfo) = items.filterMap (·.shownGlobal?) := by
  induction items with
  | nil => rfl
  | cons i items ih =>
    cases global : i.globalType? with
    | none =>
      have name : i.globalName? = none := by rw [globalName?, global, Option.map_none]
      have shown : i.shownGlobal? = none := by rw [shownGlobal?, global, Option.map_none]
      rw [List.filterMap_cons_none name, List.filterMap_cons_none global, List.filterMap_cons_none shown, ih]
    | some t =>
      have name : i.globalName? = some (i.module, i.name) := by rw [globalName?, global, Option.map_some]
      have shown : i.shownGlobal? = some (i.module, i.name, t.content.reflect, t.isMutable) := by
        rw [shownGlobal?, global, Option.map_some]
      rw [List.filterMap_cons_some name, List.filterMap_cons_some global, List.filterMap_cons_some shown,
        List.map_cons, List.zipWith_cons_cons, ih]
      rfl

/-- **The lists that are walked when globals are declared** go together: an import of a global has the number of
such imports in front of it, and under that number there are its description and its type. -/
def Lockstep (m : CompiledModule) : Prop :=
  ∀ (p : Nat) i index, m.outline.imports[p]? = some i → i.entity = .global index →
    index = globalCount (m.outline.imports.take p) ∧
      ∃ t, m.image.importedGlobals[index]? = some t ∧ m.outline.globals[index]? = some (Outline.globalInfo t)

namespace CompiledModule

variable {contents : List Content} {m : CompiledModule}

/-- The descriptions of the imported globals come first. -/
theorem Coherent.infos (coherent : Coherent contents m) : ∃ own,
    m.outline.globals = m.image.importedGlobals.map Outline.globalInfo ++ own := by
  rw [coherent.outline.globals, coherent.importedGlobals, List.map_append]
  exact ⟨_, rfl⟩

theorem Coherent.lockstep (coherent : Coherent contents m) : Lockstep m := by
  intro p i index found entity
  obtain ⟨number, t, _, type⟩ := coherent.outline.imports.global found entity
  rw [← coherent.importedGlobals] at type
  obtain ⟨own, infos⟩ := coherent.infos
  refine ⟨number, t, type, ?_⟩
  have inside : index < (m.image.importedGlobals.map Outline.globalInfo).length := by
    rw [List.length_map]
    exact (List.getElem?_eq_some_iff.1 type).1
  rw [infos, List.getElem?_append_left inside, List.getElem?_map, type, Option.map_some]

end CompiledModule

/-! ## Cells that start out as zero -/

namespace Session

/-- A declared global that reads as the zero of its type. -/
def Zeroed (s : Store) (g : GlobalImport) : Prop :=
  ∃ c, s.globals[g.cell]? = some c ∧ c.value.toValue = Value.zero g.type

theorem Zeroed.of_front {s s' : Store} {g : GlobalImport} (h : Zeroed s g)
    (front : s.globals.toList <+: s'.globals.toList) : Zeroed s' g := by
  obtain ⟨c, there, zero⟩ := h
  exact ⟨c, getElem?_of_front front there, zero⟩

namespace Imports

/-- **What a global starts out with** is of its type and reads as zero, unless it is of a type without a value to
start out with. -/
theorem seed?_zero {type : GlobalType} (starts : (Val.default? type.content).isSome) :
    ∃ x, seed? (Outline.globalInfo type) type = some x ∧ x.hasType type.content ∧
      x.toValue = Value.zero type.content.reflect := by
  obtain ⟨content, _, _⟩ := type
  cases content with
  | i32 | i64 | f32 | f64 | v128 => exact ⟨_, rfl, rfl, rfl⟩
  | ref t =>
    rw [Val.default?, Option.isSome_ite] at starts
    refine ⟨.ref none, ?_, rfl, rfl⟩
    show Val.default? (.ref t) = _
    rw [Val.default?, if_pos starts]

theorem newGlobal_eq_ok {s : Store} {type : GlobalType} {x : Val} (typed : x.hasType type.content) :
    s.newGlobal type x = .ok (s.globals.size, { s with globals := s.globals.push ⟨type, x, typed⟩ }) := by
  rw [Store.newGlobal, Cell.ofVal?, dif_pos typed]

/-- **A cell can be created for every imported global**, and reads as zero. -/
theorem createGlobals_zero (own : List GlobalInfo) : ∀ {imports : List ModuleImport} {types : List GlobalType}
    (s : Store), globalCount imports = types.length → (∀ t ∈ types, (Val.default? t.content).isSome) →
      ∃ globals s', createGlobals s imports (types.map Outline.globalInfo ++ own) types = .ok (globals, s') ∧
        s.globals.toList <+: s'.globals.toList ∧ ∀ g ∈ globals, Zeroed s' g
  | [], types, s, _, _ => ⟨[], s, rfl, List.prefix_rfl, nofun⟩
  | m :: imports, types, s, count, start => by
    unfold createGlobals
    cases entity : m.entity with
    | function type | table | memory index =>
      have count : globalCount imports = types.length := by
        rwa [globalCount, List.countP_cons_of_neg (by simp [entity, ImportEntity.kind])] at count
      exact createGlobals_zero own s count start
    | global index =>
      rw [globalCount, List.countP_cons_of_pos (by simp [entity, ImportEntity.kind])] at count
      cases types with
      | nil => cases count
      | cons type types =>
        obtain ⟨first, others⟩ := List.forall_mem_cons.1 start
        obtain ⟨x, seed, typed, zero⟩ := seed?_zero first
        let pushed : Store := { s with globals := s.globals.push ⟨type, x, typed⟩ }
        obtain ⟨globals, s', created, front, zeros⟩ :=
          createGlobals_zero own pushed (Nat.succ.inj count) others
        have new : s.globals.toList <+: pushed.globals.toList := by
          rw [Array.toList_push]
          exact List.prefix_append ..
        refine ⟨⟨m.module, m.name, type.content.reflect, type.isMutable, s.globals.size⟩ :: globals, s', ?_,
          new.trans front, List.forall_mem_cons.2 ⟨?_, zeros⟩⟩
        · simp only [List.map_cons, List.cons_append, seed, newGlobal_eq_ok typed]
          exact bind_eq_ok_iff.2 ⟨_, rfl, bind_eq_ok_iff.2 ⟨_, created, rfl⟩⟩
        · exact ⟨_, getElem?_of_front front Array.getElem?_push_size, zero⟩

end Imports

/-! ## Open sessions -/

/-- **What becomes of a session** whose globals are declared: they are the imported globals of the binary, in the
order of its imports, and each of them reads as zero. -/
structure DeclaresGlobals (contents : List Content) (s : Session) : Prop where
  done : s.declareGlobals.2 = .ok ()
  listed : s.declareGlobals.1.globalImports.map GlobalImport.shown =
    (contents.flatMap Content.importItems).filterMap (·.shownGlobal?)
  zero : ∀ place g, s.declareGlobals.1.globalImports[place]? = some g →
    s.declareGlobals.1.shownAt? place = some (Value.zero g.type)

section

variable {contents : List Content} {s : Session}

/-- Globals that are not declared yet can be declared. -/
theorem declaresGlobals_of_open (coherent : CompiledModule.Coherent contents s.module)
    (start : ∀ t ∈ s.module.image.importedGlobals, (Val.default? t.content).isSome) (isOpen : s.phase.isOpen)
    (undeclared : s.imports.globals = none) : DeclaresGlobals contents s := by
  obtain ⟨own, infos⟩ := coherent.infos
  have count : globalCount s.module.outline.imports = s.module.image.importedGlobals.length := by
    rw [globalCount_eq, coherent.outline.imports.globalNames, Import.length_globalNames, coherent.importedGlobals]
  obtain ⟨globals, store, created, _, zeros⟩ := Imports.createGlobals_zero own s.store count start
  rw [← infos] at created
  have declared : s.declareGlobals = ({ s with
      imports := { s.imports with globals := some globals }, store, phase := .importsDeclared }, .ok ()) := by
    have answer : s.imports.declareGlobals s.store s.module =
        .ok ({ s.imports with globals := some globals }, store) := by
      rw [Imports.declareGlobals, undeclared]
      exact bind_eq_ok_iff.2 ⟨_, created, rfl⟩
    simp only [declareGlobals, expectOpen, isOpen, if_true, answer]
  have provided := (Imports.createGlobals_ok created).provided coherent
  refine ⟨by rw [declared], ?_, fun place g found => ?_⟩
  · have shown : globals.map GlobalImport.shown =
        List.zipWith (fun n (i : GlobalInfo) => (n.1, n.2, i.type, i.isMutable))
          (globals.map fun g => (g.module, g.name)) (globals.map fun g => ⟨g.type, g.isMutable⟩) := by
      rw [List.zipWith_map, List.zipWith_self]
      rfl
    rw [declared, ← Import.zip_globals, ← provided.names, ← provided.infos]
    exact shown
  · rw [declared] at found ⊢
    obtain ⟨c, there, zero⟩ := zeros g (List.mem_of_getElem? found)
    rw [shownAt?, valueAt?_eq found, there, Option.map_some, Option.map_some, zero]

end

/-- **Declaring the globals of a module.** Every module that compiles, from the binary that it was read from, can
have its globals declared, as long as it is not instantiated: the lists that are walked go together. What is
declared are the globals that the binary imports, and each of them reads as the zero of its type. -/
theorem run_declaresGlobals {c : Config} {bytes : List UInt8} {s : Session} (h : compile c bytes = .ok s) :
    ∃ r, Reading.ofBytes c.features bytes = .ok r ∧ Lockstep s.module ∧
      ∀ ops, (s.run ops).phase.isOpen → (s.run ops).imports.globals = none →
        DeclaresGlobals r.contents (s.run ops) := by
  obtain ⟨r, m, compiles, rfl⟩ := compile_ok h
  have coherent := compiles.coherent
  refine ⟨r, compiles.read, coherent.lockstep, fun ops isOpen undeclared => ?_⟩
  have same : ((ofModule m).run ops).module = m := run_module _ ops
  refine declaresGlobals_of_open (by rw [same]; exact coherent) (fun t mem => ?_) isOpen undeclared
  rw [same, coherent.importedGlobals] at mem
  obtain ⟨i, among, global⟩ := List.mem_filterMap.1 mem
  have valid := (Reading.ofBytes_ok_iff.1 compiles.read).1
  exact Validator.run_importedGlobals valid.validated ⟨rfl, rfl⟩ i among t global

/-- A module that imports a global for each kind of value, has one of its own, and a memory that it does not
export. -/
def seededModule : List UInt8 :=
  Wasm.Sections.join
    [⟨Wasm.Section.importId, [4, 1, 0x61, 1, 0x69, 3, 0x7f, 0, 1, 0x61, 1, 0x76, 3, 0x7b, 1,
        1, 0x62, 1, 0x69, 3, 0x7c, 1, 1, 0x62, 1, 0x72, 3, 0x70, 0]⟩,
      ⟨Wasm.Section.memoryId, [1, 0, 1]⟩,
      ⟨Wasm.Section.globalId, [1, 0x7e, 0, 0x42, 0, 0x0b]⟩]

theorem run_declaresGlobals_seeded : ∃ s, compile {} seededModule = .ok s ∧
    ((s.run []).phase.isOpen ∧ (s.run []).imports.globals = none ∧ s.module.memoryExport.isSome ∧
      s.declareGlobals.1.globalImports.map GlobalImport.shown =
        [("a", "i", .i32, false), ("a", "v", .void, true), ("b", "i", .f64, true), ("b", "r", .void, false)]) ∧
    ∃ r, Reading.ofBytes ({} : Config).features seededModule = .ok r ∧ Lockstep s.module ∧
      ∀ ops, (s.run ops).phase.isOpen → (s.run ops).imports.globals = none →
        DeclaresGlobals r.contents (s.run ops) := by
  obtain ⟨s, compiled, fresh⟩ : ∃ s, compile {} seededModule = .ok s ∧
      ((s.run []).phase.isOpen ∧ (s.run []).imports.globals = none ∧ s.module.memoryExport.isSome ∧
        s.declareGlobals.1.globalImports.map GlobalImport.shown =
          [("a", "i", .i32, false), ("a", "v", .void, true), ("b", "i", .f64, true), ("b", "r", .void, false)]) := by
    decide +kernel
  exact ⟨s, compiled, fresh, run_declaresGlobals compiled⟩

end Session

end WasmLens
