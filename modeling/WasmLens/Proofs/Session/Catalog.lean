import Mathlib.Data.List.Nodup
import WasmLens.Proofs.Module.Locations
import WasmLens.Proofs.Session.Linking
import WasmLens.Proofs.Session.Moments

/-!
# The catalog of an instance

A catalog joins three tables by the index of a function: where code lies, the exports, and the types. If the engine
reports one place for every function, laid out in their order, **every function of the instance has one entry, and
the joins are right** (`Cataloged`): an entry is found by its index and by all of its names, and tells what
the binary says of this function. An instance imports no function, so no function goes without an entry.
-/
namespace WasmLens.Session

open Wasm Code CompiledModule

/-! ## Elements with a key -/

/-- If all keys are different, the last element with a key is the only one. -/
theorem getLast?_filter_eq_some_iff {α β : Type} [DecidableEq β] {key : α → β} {xs : List α}
    (nodup : (xs.map key).Nodup) {k : β} {x : α} :
    (xs.filter (key · = k)).getLast? = some x ↔ x ∈ xs ∧ key x = k := by
  constructor
  · intro last
    simpa only [List.mem_filter, decide_eq_true_eq] using List.mem_of_getLast? last
  · rintro ⟨mem, rfl⟩
    have among : x ∈ xs.filter (key · = key x) := List.mem_filter.2 ⟨mem, decide_eq_true rfl⟩
    obtain ⟨y, last⟩ : ∃ y, (xs.filter (key · = key x)).getLast? = some y :=
      ⟨_, List.getLast?_eq_some_getLast (List.ne_nil_of_mem among)⟩
    have found := List.mem_of_getLast? last
    simp only [List.mem_filter, decide_eq_true_eq] at found
    rw [last, List.inj_on_of_nodup_map nodup found.1 mem found.2]

/-- The keys of a list that is drawn from another one are among those of that one, in their order. -/
theorem map_filterMap_sublist {α β γ : Type} {f : α → Option β} {key : α → γ} {key' : β → γ}
    (same : ∀ x y, f x = some y → key' y = key x) (xs : List α) :
    ((xs.filterMap f).map key').Sublist (xs.map key) := by
  induction xs with
  | nil => exact .refl _
  | cons x xs ih =>
    rw [List.map_cons]
    cases drawn : f x with
    | none =>
      rw [List.filterMap_cons_none drawn]
      exact ih.cons _
    | some y =>
      rw [List.filterMap_cons_some drawn, List.map_cons, same x y drawn]
      exact ih.cons_cons _

/-! ## Entries -/

namespace Catalog

theorem map_index_entriesOf (o : Outline) (l : Layout) :
    (entriesOf o l).map (·.index) = l.functions.filterMap (·.func) := by
  rw [entriesOf, List.map_filterMap]
  congr 1
  funext r
  rw [Option.map_map]
  cases r.func <;> rfl

/-- What an entry is joined from: a range that holds a function, and what the outline has of that function. -/
structure Joins (o : Outline) (l : Layout) (e : FunctionEntry) : Prop where
  range : e.range ∈ l.functions
  func : e.range.func = some e.index
  name : e.name = o.functionExport? e.index
  debugName : e.debugName = o.functionNames[e.index]?
  code : e.code = (l.code e.range).getD []
  signature : e.signature = (o.signature? e.index).getD ⟨[], []⟩

theorem joins_of_mem {o : Outline} {l : Layout} {e : FunctionEntry} (h : e ∈ entriesOf o l) : Joins o l e := by
  obtain ⟨r, mem, made⟩ := List.mem_filterMap.1 h
  obtain ⟨func, here, rfl⟩ := Option.map_eq_some_iff.1 made
  exact ⟨mem, here, rfl, rfl, rfl, rfl⟩

variable {c : Catalog}

theorem ofIndex?_eq_some_iff (nodup : (c.entries.map (·.index)).Nodup) {index : Nat} {e : FunctionEntry} :
    c.ofIndex? index = some e ↔ e ∈ c.entries ∧ e.index = index :=
  getLast?_filter_eq_some_iff nodup

theorem get?_eq_some_iff (nodup : (c.entries.map (·.index)).Nodup) (distinct : (c.exports.map (·.1)).Nodup)
    {name : String} {e : FunctionEntry} :
    c.get? name = some e ↔ e ∈ c.entries ∧ (name, e.index) ∈ c.exports := by
  simp only [get?, Option.bind_eq_some_iff, Option.map_eq_some_iff, getLast?_filter_eq_some_iff distinct,
    ofIndex?_eq_some_iff nodup]
  constructor
  · rintro ⟨index, ⟨⟨name', _⟩, ⟨mem, rfl⟩, rfl⟩, there, rfl⟩
    exact ⟨there, mem⟩
  · rintro ⟨there, mem⟩
    exact ⟨e.index, ⟨(name, e.index), ⟨mem, rfl⟩, rfl⟩, there, rfl⟩

/-- What a catalog knows as an export of the module. -/
theorem mem_exports_build {m : CompiledModule} {name : String} {index : Nat} :
    (name, index) ∈ (build m).exports ↔ (⟨name, .function, index⟩ : ModuleExport) ∈ m.outline.exports ∧
      ∃ e ∈ (build m).entries, e.index = index := by
  simp only [build, List.mem_filterMap, Bool.and_eq_true, decide_eq_true_eq, List.any_eq_true]
  constructor
  · rintro ⟨⟨name', kind, index'⟩, mem, eq⟩
    split at eq
    · rename_i both
      cases eq
      obtain ⟨rfl, e, among, here⟩ := both
      exact ⟨mem, e, among, here⟩
    · cases eq
  · rintro ⟨mem, e, among, here⟩
    exact ⟨_, mem, if_pos ⟨rfl, e, among, here⟩⟩

theorem names_build {m : CompiledModule} (distinct : (m.outline.exports.map (·.name)).Nodup) :
    ((build m).exports.map (·.1)).Nodup := by
  refine distinct.sublist (map_filterMap_sublist (fun x y made => ?_) _)
  split at made
  · cases made
    rfl
  · cases made

end Catalog

end WasmLens.Session

namespace WasmLens

open Wasm Session

namespace Outline

variable {o : Outline} {func : Nat}

/-- **The first name** that a function is exported under. -/
theorem functionExport?_eq_some_iff {name : String} : o.functionExport? func = some name ↔
    ∃ front back, o.exports = front ++ ⟨name, .function, func⟩ :: back ∧
      ∀ x ∈ front, ¬(x.kind = .function ∧ x.index = func) := by
  simp only [functionExport?, exportName?, Option.map_eq_some_iff, List.find?_eq_some_iff_append,
    Bool.and_eq_true, decide_eq_true_eq, Bool.not_eq_true', Bool.and_eq_false_iff, decide_eq_false_iff_not]
  constructor
  · rintro ⟨⟨name', _, _⟩, ⟨⟨rfl, rfl⟩, front, back, split, others⟩, rfl⟩
    exact ⟨front, back, split, fun x mem both => (others x mem).elim (· both.1) (· both.2)⟩
  · rintro ⟨front, back, split, others⟩
    exact ⟨_, ⟨⟨rfl, rfl⟩, front, back, split, fun x mem => not_and_or.1 (others x mem)⟩, rfl⟩

theorem functionExport?_eq_none_iff : o.functionExport? func = none ↔
    ∀ x ∈ o.exports, ¬(x.kind = .function ∧ x.index = func) := by
  simp only [functionExport?, exportName?, Option.map_eq_none_iff, List.find?_eq_none, Bool.and_eq_true,
    decide_eq_true_eq]

end Outline

/-- **The signature of a function** is its declared type, as a host sees it. -/
theorem CompiledModule.Coherent.signature {contents : List Content} {m : CompiledModule}
    (h : Coherent contents m) {func : Nat} (inside : func < m.outline.functions.length) :
    ∃ type sub t, ((contents.flatMap Content.importItems).filterMap (·.functionType?) ++
        contents.flatMap Content.definedFunctions)[func]? = some type ∧
      (contents.flatMap Content.definedTypes)[type]? = some sub ∧ sub.funcType? = some t ∧
        m.outline.signature? func = some ⟨t.params.map (·.reflect), t.results.map (·.reflect)⟩ := by
  obtain ⟨type, found⟩ : ∃ type, m.outline.functions[func]? = some type := ⟨_, List.getElem?_eq_getElem inside⟩
  have listed := h.functions type (by
    rw [Content.functions_entriesOf h.ordered, ← h.outline.functions]
    exact List.mem_of_getElem? found)
  obtain ⟨t, declared⟩ := listed
  obtain ⟨sub, here, function⟩ := Option.bind_eq_some_iff.1 declared
  rw [Content.types_entriesOf] at here
  refine ⟨type, sub, t, h.outline.functions ▸ found, here, function, ?_⟩
  rw [Outline.signature?, found, Option.bind_some, h.outline.types, List.getElem?_map, here, Option.map_some,
    Outline.signatureOf, function]

namespace Session

open Code Machine CompiledModule

variable {contents : List Content} {m : CompiledModule} {s s' : Session} {op : Op} {reply : Reply}

/-! ## Catalogs of instances -/

/-- **What a catalog tells** of the functions of an instance, and under which names. -/
structure Cataloged (contents : List Content) (m : CompiledModule) (c : Catalog) : Prop where
  /-- Every function that the module defines has one entry, in their order, and it defines all of them. -/
  indices : c.entries.map (·.index) = List.range' m.outline.importedFunctions
    (m.outline.functions.length - m.outline.importedFunctions)
  own : m.outline.importedFunctions = 0
  ofIndex : ∀ index e, c.ofIndex? index = some e ↔ e ∈ c.entries ∧ e.index = index
  /-- All names of a function reach its entry. -/
  get : ∀ name e, c.get? name = some e ↔
    e ∈ c.entries ∧ (⟨name, .function, e.index⟩ : ModuleExport) ∈ m.outline.exports
  exported : ∀ name, (c.get? name).isSome ↔
    ∃ index, (⟨name, .function, index⟩ : ModuleExport) ∈ m.outline.exports
  /-- An entry has the first of the names. -/
  name : ∀ e ∈ c.entries, ∀ name, e.name = some name ↔
    ∃ front back, m.outline.exports = front ++ ⟨name, .function, e.index⟩ :: back ∧
      ∀ x ∈ front, ¬(x.kind = .function ∧ x.index = e.index)
  unnamed : ∀ e ∈ c.entries, e.name = none ↔
    ∀ x ∈ m.outline.exports, ¬(x.kind = .function ∧ x.index = e.index)
  debugName : ∀ e ∈ c.entries, e.debugName = m.outline.functionNames[e.index]?
  signature : ∀ e ∈ c.entries, ∃ type sub t,
    ((contents.flatMap Content.importItems).filterMap (·.functionType?) ++
        contents.flatMap Content.definedFunctions)[e.index]? = some type ∧
      (contents.flatMap Content.definedTypes)[type]? = some sub ∧ sub.funcType? = some t ∧
        e.signature = ⟨t.params.map (·.reflect), t.results.map (·.reflect)⟩
  /-- The code is all of its range of the text. -/
  code : ∀ e ∈ c.entries, e.range ∈ m.layout.functions ∧ e.range.func = some e.index ∧
    e.code = (m.text.drop e.range.entry).take (e.range.stop - e.range.entry) ∧ e.range.length = .ok e.code.length
  /-- It is the code that the engine tells of, unless it tells of code that overlaps. -/
  place : (∀ s ∈ m.locations, ∀ s' ∈ m.locations, s.func < s'.func → s.stop ≤ s'.start) →
    ∀ e ∈ c.entries, (⟨e.index, e.range.entry, e.range.stop⟩ : Span) ∈ m.locations

/-- **The catalog of a module** whose functions have one place each. -/
theorem cataloged_build (coherent : Coherent contents m) (own : m.outline.importedFunctions = 0)
    (located : Layout.Located m.text m.locations m.outline.importedFunctions
      (m.outline.functions.length - m.outline.importedFunctions)) :
    Cataloged contents m (Catalog.build m) := by
  have indices : (Catalog.build m).entries.map (·.index) = List.range' m.outline.importedFunctions
      (m.outline.functions.length - m.outline.importedFunctions) :=
    (Catalog.map_index_entriesOf m.outline m.layout).trans located.filterMap_func
  have all (index : Nat) : index < m.outline.functions.length ↔
      ∃ e ∈ (Catalog.build m).entries, e.index = index := by
    have mem : index ∈ (Catalog.build m).entries.map (·.index) ↔ _ := List.mem_map
    rw [← mem, indices, List.mem_range'_1]
    omega
  have nodup : ((Catalog.build m).entries.map (·.index)).Nodup := by
    rw [indices]
    exact List.nodup_range'
  have distinct := Catalog.names_build coherent.outline.distinct
  have get (name : String) (e : FunctionEntry) : (Catalog.build m).get? name = some e ↔
      e ∈ (Catalog.build m).entries ∧ (⟨name, .function, e.index⟩ : ModuleExport) ∈ m.outline.exports := by
    rw [Catalog.get?_eq_some_iff nodup distinct, Catalog.mem_exports_build]
    exact and_congr_right fun mem => and_iff_left ⟨e, mem, rfl⟩
  have joins (e) (mem : e ∈ (Catalog.build m).entries) : Catalog.Joins m.outline m.layout e :=
    Catalog.joins_of_mem mem
  refine ⟨indices, own, fun _ _ => Catalog.ofIndex?_eq_some_iff nodup, get, fun name => ?_, fun e mem name => ?_,
    fun e mem => ?_, fun e mem => (joins e mem).debugName, fun e mem => ?_, fun e mem => ?_, fun apart e mem => ?_⟩
  · constructor
    · intro some
      obtain ⟨e, found⟩ := Option.isSome_iff_exists.1 some
      exact ⟨e.index, ((get name e).1 found).2⟩
    · rintro ⟨index, mem⟩
      obtain ⟨e, there, rfl⟩ := (all index).1 (coherent.outline.exported _ mem rfl)
      exact Option.isSome_iff_exists.2 ⟨e, (get name e).2 ⟨there, mem⟩⟩
  · rw [(joins e mem).name]
    exact Outline.functionExport?_eq_some_iff
  · rw [(joins e mem).name]
    exact Outline.functionExport?_eq_none_iff
  · obtain ⟨type, sub, t, declared, here, function, signature⟩ := coherent.signature ((all e.index).2 ⟨e, mem, rfl⟩)
    refine ⟨type, sub, t, declared, here, function, ?_⟩
    rw [(joins e mem).signature, signature, Option.getD_some]
  · obtain ⟨bytes, length⟩ := Layout.code_of_mem (List.mem_filter.1 (joins e mem).range).1
    have code : e.code = (m.text.drop e.range.entry).take (e.range.stop - e.range.entry) := by
      rw [(joins e mem).code, layout, bytes, Option.getD_some]
    refine ⟨(joins e mem).range, (joins e mem).func, code, ?_⟩
    rw [code]
    exact length
  · obtain ⟨s, told, range⟩ := located.functions_apart apart e.range (joins e mem).range
    have func : some s.func = some e.index := by rw [← (joins e mem).func, range]
    rw [← Option.some.inj func, range]
    exact told

/-! ## All runs -/

/-- An instance has the catalog of its module, which imports no function. -/
def Stocked (s : Session) : Prop :=
  s.phase = .instantiated → s.catalog = Catalog.build s.module ∧ s.module.outline.importedFunctions = 0

theorem Performs.stocked (h : Performs s op s' reply) (coherent : Coherent contents s.module)
    (stocked : Stocked s) : Stocked s' := by
  cases h with
  | refused | starts | hangs | setsGlobal | getsGlobal | calls | reads | writes | setsTimer => exact stocked
  | declaresMemory | declaresGlobals | fails =>
    intro live
    cases live
  | instantiates _ linked =>
    intro _
    obtain ⟨externs, _, bound, _⟩ := link_ok linked
    exact ⟨rfl, Imports.externs_functions coherent.outline bound⟩

theorem ofModule_stocked (m : CompiledModule) : Stocked (ofModule m) := by
  intro live
  cases live

theorem run_stocked (coherent : Coherent contents s.module) (stocked : Stocked s) (ops : List Op) :
    Stocked (s.run ops) := by
  refine run_keeps_of_module Stocked (fun s' op s'' reply same stocked performed => ?_) stocked ops
  exact performed.stocked (same ▸ coherent) stocked

/-- An instance of a module whose functions have one place each. -/
theorem cataloged_of_live (coherent : Coherent contents m)
    (located : Layout.Located m.text m.locations m.outline.importedFunctions
      (m.outline.functions.length - m.outline.importedFunctions)) (ops : List Op)
    (live : ((ofModule m).run ops).phase = .instantiated) :
    Cataloged contents m ((ofModule m).run ops).catalog := by
  obtain ⟨catalog, own⟩ := run_stocked (s := ofModule m) coherent (ofModule_stocked m) ops live
  rw [run_module] at catalog own
  rw [catalog]
  exact cataloged_build coherent own located

/-- **The catalog of every instance**, if the engine reports one place for each function, laid out in their
order: whatever operations have led to the instance, its catalog tells of every function what the binary
says. -/
theorem run_cataloged {c : Config} {bytes : List UInt8} {s : Session} (h : compile c bytes = .ok s)
    {text : List UInt8} {locations : List Span}
    (located : Layout.Located text locations s.module.outline.importedFunctions
      (s.module.outline.functions.length - s.module.outline.importedFunctions)) (ops : List Op)
    (live : ((ofModule { s.module with text, locations }).run ops).phase = .instantiated) :
    ∃ contents, (Sections.payloads bytes).mapM (Content.ofSection c.features) = .ok contents ∧
      Cataloged contents { s.module with text, locations }
        ((ofModule { s.module with text, locations }).run ops).catalog := by
  obtain ⟨r, m, compiles, rfl⟩ := compile_ok h
  have coherent := compiles.coherent
  -- where code lies is no part of what is coherent
  have reported : Coherent r.contents { m with text, locations } :=
    ⟨coherent.ordered, coherent.outline, coherent.image, coherent.setsMutable, coherent.memories,
      coherent.functions, coherent.bodies⟩
  exact ⟨r.contents, (Reading.ofBytes_ok_iff.1 compiles.read).1.decoded, cataloged_of_live reported located ops live⟩

/-- A module of two functions, one of which is exported under two names. -/
def aliasedModule : List UInt8 :=
  Wasm.Sections.join
    [⟨Wasm.Section.typeId, [1, 0x60, 2, 0x7f, 0x6f, 1, 0x7c]⟩,
      ⟨Wasm.Section.functionId, [2, 0, 0]⟩,
      ⟨Wasm.Section.exportId, [2, 1, 0x61, 0, 1, 1, 0x62, 0, 1]⟩,
      ⟨Wasm.Section.codeId, [2, 3, 0, 0, 0x0b, 3, 0, 0, 0x0b]⟩]

/-- The second function is reported first. -/
theorem run_cataloged_aliased : ∃ s, compile {} aliasedModule = .ok s ∧
    ((ofModule { s.module with text := [1, 2, 3], locations := [⟨1, 1, 3⟩, ⟨0, 0, 1⟩] }).run
      [.instantiate]).phase = .instantiated ∧
    ∃ contents, (Sections.payloads aliasedModule).mapM (Content.ofSection ({} : Config).features) = .ok contents ∧
      Cataloged contents { s.module with text := [1, 2, 3], locations := [⟨1, 1, 3⟩, ⟨0, 0, 1⟩] }
        ((ofModule { s.module with text := [1, 2, 3], locations := [⟨1, 1, 3⟩, ⟨0, 0, 1⟩] }).run
          [.instantiate]).catalog := by
  obtain ⟨s, compiled, imported, count, live⟩ : ∃ s, compile {} aliasedModule = .ok s ∧
      (s.module.outline.importedFunctions = 0 ∧ s.module.outline.functions.length = 2 ∧
        ((ofModule { s.module with text := [1, 2, 3], locations := [⟨1, 1, 3⟩, ⟨0, 0, 1⟩] }).run
          [.instantiate]).phase = .instantiated) := by decide +kernel
  refine ⟨s, compiled, live, run_cataloged compiled ?_ [.instantiate] live⟩
  rw [imported, count]
  exact ⟨by decide, by decide, by decide⟩

/-- **A compiled module reports** one place for each function by itself, and none that overlap. -/
theorem run_cataloged_apart {c : Config} {bytes : List UInt8} {s : Session} (h : compile c bytes = .ok s)
    (ops : List Op) (live : (s.run ops).phase = .instantiated) : ∃ contents,
      (Sections.payloads bytes).mapM (Content.ofSection c.features) = .ok contents ∧
        Cataloged contents s.module (s.run ops).catalog ∧
          ∀ e ∈ (s.run ops).catalog.entries,
            (⟨e.index, e.range.entry, e.range.stop⟩ : Span) ∈ s.module.locations := by
  obtain ⟨r, m, compiles, rfl⟩ := compile_ok h
  obtain ⟨located, apart⟩ := compiles.located
  have cataloged := cataloged_of_live compiles.coherent located ops live
  exact ⟨r.contents, (Reading.ofBytes_ok_iff.1 compiles.read).1.decoded, cataloged, cataloged.place apart⟩

end Session

end WasmLens
