import WasmLens.Proofs.Session.Catalog
import WasmLens.Proofs.Session.Lifecycle

/-!
# Calling functions

A call goes through two tables that are built apart: the catalog, from where code lies and what the module exports,
and the functions of the instance, which are looked up by name in what the machine has loaded. A function is called
only if both have it. If the engine tells where the code of each function lies (`Covers`), **both have all exported
functions** (`Catalog.get?_build`, `Compiles.handles`). So an index or a name is refused only if the module exports no
function that way (`run_callable`), whatever the session has gone through.
-/
namespace WasmLens

open Wasm

/-- A module exports a function under a name. -/
def Outline.ExportsFunction (o : Outline) (name : String) (func : Nat) : Prop :=
  (⟨name, .function, func⟩ : ModuleExport) ∈ o.exports

/-! ## Functions of an instance -/

namespace CompiledModule

/-- The function that the machine has under a name. -/
def functionNamed? (m : CompiledModule) (name : String) : Option Nat :=
  (m.exports.find? (·.name = name)).bind fun e => if e.kind = .func then some e.index else none

variable {c : Config} {bytes : List UInt8} {r : Reading} {m : CompiledModule}

/-- **The machine finds all exports** of a module, also if it has been given one more. -/
theorem Compiles.find?_export (compiles : Compiles c bytes r m) {shown : ModuleExport}
    (mem : shown ∈ m.outline.exports) :
    ∃ e, m.exports.find? (·.name = shown.name) = some e ∧ e.reflect? = some shown := by
  have declared := compiles.coherent.outline
  have names := Outline.mapM_reflect_names declared.exports
  obtain ⟨e, among, shows⟩ := Outline.mapM_reflect_mem declared.exports shown mem
  have name : e.name = shown.name := by
    obtain ⟨_, _, rfl⟩ := Option.map_eq_some_iff.1 shows
    rfl
  have found := find?_name (names ▸ declared.distinct) among
  refine ⟨e, ?_, shows⟩
  rw [← name]
  have finds := compiles.finds
  generalize m.exports = exports at finds ⊢
  generalize m.memoryExport = name at finds
  cases finds with
  | foreign | exported => exact found
  | exposed => rw [List.find?_append, found, Option.some_or]

/-- **An exported function has a handle**: the machine finds it under all of its names. -/
theorem Compiles.functionNamed? (compiles : Compiles c bytes r m) {name : String} {func : Nat}
    (mem : m.outline.ExportsFunction name func) : m.functionNamed? name = some func := by
  obtain ⟨e, found, shows⟩ := compiles.find?_export mem
  obtain ⟨kind, reflected, same⟩ := Option.map_eq_some_iff.1 shows
  obtain ⟨rfl, index⟩ : kind = .function ∧ e.index = func := by
    injection same with _ kind index
    exact ⟨kind, index⟩
  have function : e.kind = .func := by
    cases other : e.kind <;> rw [other] at reflected <;> cases reflected
  rw [CompiledModule.functionNamed?, found, Option.bind_some, if_pos function, index]

/-- **The handles of an instance** are what the machine finds under the names of exported functions. -/
theorem Compiles.handles (compiles : Compiles c bytes r m) (i : Session.Imports) :
    (Session.Instance.ofModule m i).functions =
      m.outline.exports.filterMap fun e => if e.kind = .function then m.functionNamed? e.name else none := by
  refine List.filterMap_congr fun e mem => ?_
  split
  · rename_i function
    have exported : m.outline.ExportsFunction e.name e.index := by
      unfold Outline.ExportsFunction
      rwa [← function]
    exact (compiles.functionNamed? exported).symm
  · rfl

/-! ## Functions whose place is told -/

/-- The engine tells where the code of each function lies that a module defines. -/
def Covers (o : Outline) (locations : List Code.Span) : Prop :=
  ∀ func < o.functions.length, o.importedFunctions ≤ func → ∃ s ∈ locations, s.func = func

/-- A compiled module tells this of itself. -/
theorem Compiles.covers (compiles : Compiles c bytes r m) : Covers m.outline m.locations := by
  intro func inside own
  have among : func ∈ m.locations.map (·.func) := by
    rw [compiles.located.1.once.mem_iff, List.mem_range'_1]
    omega
  exact List.mem_map.1 among

end CompiledModule

namespace Session

open Code Machine CompiledModule

variable {contents : List Content} {m : CompiledModule} {s s' : Session} {op : Op} {reply : Reply}

theorem Instance.mem_functions {i : Imports} {func : Nat} :
    func ∈ (Instance.ofModule m i).functions ↔ ∃ name, m.outline.ExportsFunction name func := by
  simp only [Instance.ofModule, List.mem_filterMap, Outline.ExportsFunction]
  constructor
  · rintro ⟨⟨name, kind, index⟩, mem, eq⟩
    split at eq
    · rename_i function
      cases eq
      obtain rfl : kind = .function := function
      exact ⟨name, mem⟩
    · cases eq
  · rintro ⟨name, mem⟩
    exact ⟨_, mem, if_pos rfl⟩

/-- An instance has the functions that its module exports. -/
def Handled (s : Session) : Prop :=
  ∀ i, s.live = some i → ∀ func, func ∈ i.functions ↔ ∃ name, s.module.outline.ExportsFunction name func

theorem Performs.handled (h : Performs s op s' reply) (handled : Handled s) : Handled s' := by
  cases h with
  | refused | declaresMemory | declaresGlobals | setsGlobal | getsGlobal | fails | starts | calls | hangs | reads
  | writes | setsTimer => exact handled
  | instantiates =>
    rintro i ⟨⟩ func
    exact Instance.mem_functions

/-! ## Entries of a catalog -/

namespace Catalog

/-- The functions that have an entry are those whose place is told. -/
theorem mem_entries_build {index : Nat} :
    (∃ e ∈ (build m).entries, e.index = index) ↔ ∃ s ∈ m.locations, s.func = index := by
  have mem : index ∈ (build m).entries.map (·.index) ↔ _ := List.mem_map
  have funcs : (build m).entries.map (·.index) = _ := map_index_entriesOf m.outline m.layout
  rw [← mem, funcs, layout, Layout.filterMap_func_functions, Layout.mem_map_func_order]

theorem ofIndex?_eq_some {c : Catalog} {index : Nat} {e : FunctionEntry} (found : c.ofIndex? index = some e) :
    e.index = index := by
  have mem := List.mem_of_getLast? found
  rw [List.mem_filter, decide_eq_true_eq] at mem
  exact mem.2

theorem exists_ofIndex? {c : Catalog} {index : Nat} (told : ∃ e ∈ c.entries, e.index = index) :
    ∃ e, c.ofIndex? index = some e := by
  obtain ⟨e, mem, same⟩ := told
  have among : e ∈ c.entries.filter (·.index = index) := List.mem_filter.2 ⟨mem, decide_eq_true same⟩
  exact ⟨_, List.getLast?_eq_some_getLast (List.ne_nil_of_mem among)⟩

/-- **A name reaches the entry of its function**, if all exported functions have one. -/
theorem get?_build (distinct : (m.outline.exports.map (·.name)).Nodup)
    (told : ∀ name func, m.outline.ExportsFunction name func → ∃ s ∈ m.locations, s.func = func) {name : String}
    {func : Nat} : (∃ e, (build m).get? name = some e ∧ e.index = func) ↔ m.outline.ExportsFunction name func := by
  have named {x : String × Nat} :
      ((build m).exports.filter (·.1 = name)).getLast? = some x ↔ x ∈ (build m).exports ∧ x.1 = name :=
    getLast?_filter_eq_some_iff (names_build distinct)
  constructor
  · rintro ⟨e, found, rfl⟩
    obtain ⟨index, last, entry⟩ := Option.bind_eq_some_iff.1 found
    obtain ⟨⟨_, _⟩, first, rfl⟩ := Option.map_eq_some_iff.1 last
    obtain ⟨mem, rfl⟩ := named.1 first
    obtain rfl := ofIndex?_eq_some entry
    exact (mem_exports_build.1 mem).1
  · intro exported
    have entry := mem_entries_build.2 (told name func exported)
    have last := named.2 ⟨mem_exports_build.2 ⟨exported, entry⟩, rfl⟩
    obtain ⟨e, found⟩ := exists_ofIndex? entry
    refine ⟨e, ?_, ofIndex?_eq_some found⟩
    rw [get?, last, Option.map_some, Option.bind_some, found]

end Catalog

/-! ## Calling -/

/-- **How functions are called** in an instance of a module, with some arguments. -/
structure Callable (m : CompiledModule) (s : Session) (args : List Value) : Prop where
  /-- A name is unknown if no function is exported under it. -/
  unknown : ∀ name, (s.call name args).map (·.2) = some (.error (.unknownExport name)) ↔
    ∀ func, ¬m.outline.ExportsFunction name func
  /-- A name stands for one index. -/
  unique : ∀ name func func', m.outline.ExportsFunction name func → m.outline.ExportsFunction name func' → func = func'
  /-- A call by name is a call by that index, of the function that the machine has under the name. -/
  named : ∀ name func, m.outline.ExportsFunction name func →
    s.call name args = s.invoke func args ∧ m.functionNamed? name = some func
  /-- A call by name is never refused for its index. -/
  known : ∀ name func, (s.call name args).map (·.2) ≠ some (.error (.notExported func))
  /-- An index is refused if no function is exported that has it. -/
  notExported : ∀ func, (s.invoke func args).map (·.2) = some (.error (.notExported func)) ↔
    ∀ name, ¬m.outline.ExportsFunction name func
  /-- An exported function is called, as often as the timer has it, and there is an answer when all calls are
  over. -/
  exported : ∀ name func, m.outline.ExportsFunction name func →
    s.invoke func args = (s.measure func args).map fun (s', i) => (s', .ok i)
  /-- Nothing runs for what is not exported. -/
  refused : ∀ func s' cause, s.invoke func args = some (s', .error cause) → s' = s
  refused_name : ∀ name s' cause, s.call name args = some (s', .error cause) → s' = s
  /-- All names of a function are alike. -/
  aliases : ∀ name name' func, m.outline.ExportsFunction name func → m.outline.ExportsFunction name' func →
    s.call name args = s.call name' args

/-- **Both tables of an instance** have the functions that a module exports. -/
structure Serves (m : CompiledModule) (s : Session) : Prop where
  live : s.live.isNone = false
  listed : ∀ name func, m.outline.ExportsFunction name func → (s.catalog.ofIndex? func).isNone = false
  named : ∀ name func, (∃ e, s.catalog.get? name = some e ∧ e.index = func) ↔ m.outline.ExportsFunction name func
  handled : ∀ func, s.canCall func ↔ ∃ name, m.outline.ExportsFunction name func

namespace Serves

variable (serves : Serves m s) (args : List Value) {name : String} {func : Nat}

include serves

theorem invoke_exported (exported : m.outline.ExportsFunction name func) :
    s.invoke func args = (s.measure func args).map fun (s', i) => (s', .ok i) := by
  have handled := (serves.handled func).2 ⟨name, exported⟩
  simp only [invoke, serves.live, serves.listed name func exported, handled, Bool.not_true, Bool.or_self,
    Bool.false_eq_true, if_false]

theorem invoke_unexported (none : ∀ name, ¬m.outline.ExportsFunction name func) :
    s.invoke func args = some (s, .error (.notExported func)) := by
  have unhandled : s.canCall func = false := by
    rw [← Bool.not_eq_true, serves.handled]
    exact not_exists.2 none
  simp only [invoke, serves.live, unhandled, Bool.not_false, Bool.or_true, Bool.false_eq_true, if_false, if_true]

theorem call_exported (exported : m.outline.ExportsFunction name func) :
    s.call name args = s.invoke func args := by
  obtain ⟨e, found, rfl⟩ := (serves.named name func).2 exported
  simp only [call, serves.live, Catalog.get, found, Bool.false_eq_true, if_false]

theorem call_unexported (none : ∀ func, ¬m.outline.ExportsFunction name func) :
    s.call name args = some (s, .error (.unknownExport name)) := by
  have absent : s.catalog.get? name = .none := by
    rw [Option.eq_none_iff_forall_ne_some]
    intro e found
    exact none e.index ((serves.named name e.index).1 ⟨e, found, rfl⟩)
  simp only [call, serves.live, Catalog.get, absent, Bool.false_eq_true, if_false]

theorem unique {func' : Nat} (exported : m.outline.ExportsFunction name func)
    (exported' : m.outline.ExportsFunction name func') : func = func' := by
  obtain ⟨e, found, rfl⟩ := (serves.named name func).2 exported
  obtain ⟨e', found', rfl⟩ := (serves.named name func').2 exported'
  rw [Option.some.inj (found.symm.trans found')]

/-- An index is refused, or its function is called. -/
theorem invoke_cases (func : Nat) :
    (∀ name, ¬m.outline.ExportsFunction name func) ∧ s.invoke func args = some (s, .error (.notExported func)) ∨
      (∃ name, m.outline.ExportsFunction name func) ∧
        s.invoke func args = (s.measure func args).map fun (s', i) => (s', .ok i) := by
  by_cases some : ∃ name, m.outline.ExportsFunction name func
  · obtain ⟨name, exported⟩ := some
    exact .inr ⟨⟨name, exported⟩, serves.invoke_exported args exported⟩
  · have none := not_exists.1 some
    exact .inl ⟨none, serves.invoke_unexported args none⟩

/-- A name is refused, or its function is called. -/
theorem call_cases (name : String) :
    (∀ func, ¬m.outline.ExportsFunction name func) ∧ s.call name args = some (s, .error (.unknownExport name)) ∨
      ∃ func, m.outline.ExportsFunction name func ∧
        s.call name args = (s.measure func args).map fun (s', i) => (s', .ok i) := by
  by_cases some : ∃ func, m.outline.ExportsFunction name func
  · obtain ⟨func, exported⟩ := some
    exact .inr ⟨func, exported, (serves.call_exported args exported).trans (serves.invoke_exported args exported)⟩
  · have none := not_exists.1 some
    exact .inl ⟨none, serves.call_unexported args none⟩

/-- **What both tables have can be called**, and nothing else. -/
theorem callable (handles : ∀ name func, m.outline.ExportsFunction name func → m.functionNamed? name = some func) :
    Callable m s args where
  unknown name := by
    rcases serves.call_cases args name with ⟨none, answer⟩ | ⟨func, exported, answer⟩
    · simp only [answer, Option.map_some, true_iff]
      exact none
    · have answers : ¬(s.call name args).map (·.2) = some (.error (.unknownExport name)) := by simp [answer]
      exact iff_of_false answers fun none => none func exported
  unique name func func' := serves.unique
  named name func exported := ⟨serves.call_exported args exported, handles name func exported⟩
  known name func := by
    rcases serves.call_cases args name with ⟨_, answer⟩ | ⟨_, _, answer⟩ <;> simp [answer]
  notExported func := by
    rcases serves.invoke_cases args func with ⟨none, answer⟩ | ⟨⟨name, exported⟩, answer⟩
    · simp only [answer, Option.map_some, true_iff]
      exact none
    · have answers : ¬(s.invoke func args).map (·.2) = some (.error (.notExported func)) := by simp [answer]
      exact iff_of_false answers fun none => none name exported
  exported name func := serves.invoke_exported args
  refused func s' cause := by
    rcases serves.invoke_cases args func with ⟨_, answer⟩ | ⟨_, answer⟩ <;> simp +contextual [answer]
  refused_name name s' cause := by
    rcases serves.call_cases args name with ⟨_, answer⟩ | ⟨_, _, answer⟩ <;> simp +contextual [answer]
  aliases name name' func exported exported' :=
    (serves.call_exported args exported).trans (serves.call_exported args exported').symm

end Serves

/-! ## All runs -/

theorem serves_of_live (coherent : Coherent contents m) (covers : Covers m.outline m.locations) (ops : List Op)
    (live : ((ofModule m).run ops).phase = .instantiated) : Serves m ((ofModule m).run ops) := by
  have stocked := run_stocked (s := ofModule m) coherent (ofModule_stocked m) ops live
  rw [run_module] at stocked
  obtain ⟨catalog, own⟩ : ((ofModule m).run ops).catalog = Catalog.build m ∧ m.outline.importedFunctions = 0 := stocked
  have handled : Handled ((ofModule m).run ops) :=
    run_keeps Handled (fun _ _ _ _ before performed => performed.handled before) ops nofun
  obtain ⟨i, some⟩ := Option.isSome_iff_exists.1 ((run_wellPhased ops (ofModule_wellPhased m)).1.live.2 live)
  have told (name : String) (func : Nat) (exported : m.outline.ExportsFunction name func) :
      ∃ s ∈ m.locations, s.func = func :=
    covers func (coherent.outline.exported _ exported rfl) (own ▸ Nat.zero_le _)
  refine ⟨?_, fun name func exported => ?_, fun name func => ?_, fun func => ?_⟩
  · rw [some, Option.isNone_some]
  · obtain ⟨e, found⟩ := Catalog.exists_ofIndex? (Catalog.mem_entries_build.2 (told name func exported))
    rw [catalog, found, Option.isNone_some]
  · rw [catalog]
    exact Catalog.get?_build coherent.outline.distinct told
  · have functions := handled i some func
    rw [run_module] at functions
    rw [canCall, some, Option.any_some, List.contains_iff_mem]
    exact functions

/-- Without an instance nothing is called. -/
theorem not_callable (ops : List Op) (none : ((ofModule m).run ops).phase ≠ .instantiated) (name : String)
    (func : Nat) (args : List Value) :
    ((ofModule m).run ops).call name args = some ((ofModule m).run ops, .error .notInstantiated) ∧
      ((ofModule m).run ops).invoke func args = some ((ofModule m).run ops, .error .notInstantiated) := by
  have absent : ((ofModule m).run ops).live.isNone := by
    rw [← Option.not_isSome, Bool.not_eq_true', ← Bool.not_eq_true, (run_wellPhased ops (ofModule_wellPhased m)).1.live]
    exact none
  simp only [call, invoke, absent, if_true, and_self]

/-- **Calls by name and by index**, if the engine tells where the code of each function lies: whatever a session has
gone through, an instance calls exactly the functions that its module exports, by all of their names and by their
index, and without an instance nothing is called. -/
theorem run_callable {c : Config} {bytes : List UInt8} {s : Session} (h : compile c bytes = .ok s) {text : List UInt8}
    {locations : List Span} (covers : Covers s.module.outline locations) (ops : List Op) :
    (((ofModule { s.module with text, locations }).run ops).phase = .instantiated → ∀ args,
      Callable s.module ((ofModule { s.module with text, locations }).run ops) args) ∧
    (((ofModule { s.module with text, locations }).run ops).phase ≠ .instantiated → ∀ name func args,
      ((ofModule { s.module with text, locations }).run ops).call name args =
          some ((ofModule { s.module with text, locations }).run ops, .error .notInstantiated) ∧
        ((ofModule { s.module with text, locations }).run ops).invoke func args =
          some ((ofModule { s.module with text, locations }).run ops, .error .notInstantiated)) := by
  obtain ⟨r, m, compiles, rfl⟩ := compile_ok h
  have coherent := compiles.coherent
  -- where code lies is no part of what is coherent
  have reported : Coherent r.contents { m with text, locations } :=
    ⟨coherent.ordered, coherent.outline, coherent.image, coherent.setsMutable, coherent.memories,
      coherent.functions, coherent.bodies⟩
  refine ⟨fun live args => ?_, not_callable ops⟩
  obtain ⟨instantiated, listed, named, handled⟩ := serves_of_live reported covers ops live
  have serves : Serves m ((ofModule { m with text, locations }).run ops) := ⟨instantiated, listed, named, handled⟩
  exact serves.callable args fun _ _ => compiles.functionNamed?

/-- A function with two names, told of before the other one and twice. -/
theorem run_callable_aliased : ∃ s, compile {} aliasedModule = .ok s ∧
    (s.module.outline.ExportsFunction "a" 1 ∧ s.module.outline.ExportsFunction "b" 1 ∧
      ((ofModule { s.module with text := [1, 2, 3], locations := [⟨1, 1, 3⟩, ⟨0, 0, 1⟩, ⟨1, 0, 0⟩] }).run
        [.instantiate]).phase = .instantiated) ∧
    ∀ args, Callable s.module
      ((ofModule { s.module with text := [1, 2, 3], locations := [⟨1, 1, 3⟩, ⟨0, 0, 1⟩, ⟨1, 0, 0⟩] }).run
        [.instantiate]) args := by
  obtain ⟨s, compiled, count, names, live⟩ : ∃ s, compile {} aliasedModule = .ok s ∧
      s.module.outline.functions.length = 2 ∧
      (s.module.outline.ExportsFunction "a" 1 ∧ s.module.outline.ExportsFunction "b" 1) ∧
        ((ofModule { s.module with text := [1, 2, 3], locations := [⟨1, 1, 3⟩, ⟨0, 0, 1⟩, ⟨1, 0, 0⟩] }).run
          [.instantiate]).phase = .instantiated := by
    unfold Outline.ExportsFunction
    decide +kernel
  refine ⟨s, compiled, ⟨names.1, names.2, live⟩, (run_callable compiled ?_ [.instantiate]).1 live⟩
  intro func inside _
  rw [count] at inside
  obtain rfl | rfl : func = 0 ∨ func = 1 := by omega
  · exact ⟨⟨0, 0, 1⟩, by decide, rfl⟩
  · exact ⟨⟨1, 1, 3⟩, by decide, rfl⟩

/-- **A compiled module** tells of all functions by itself. -/
theorem run_callable_compiled {c : Config} {bytes : List UInt8} {s : Session} (h : compile c bytes = .ok s)
    (ops : List Op) (live : (s.run ops).phase = .instantiated) (args : List Value) :
    Callable s.module (s.run ops) args := by
  obtain ⟨r, m, compiles, rfl⟩ := compile_ok h
  exact (serves_of_live compiles.coherent compiles.covers ops live).callable args fun _ _ => compiles.functionNamed?

end Session

end WasmLens
