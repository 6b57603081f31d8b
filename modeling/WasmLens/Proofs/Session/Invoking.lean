import WasmLens.Proofs.Session.FunctionHandles
import WasmLens.Proofs.Session.Suiting

/-!
# Invocations

A host passes the arguments that a module has values for, and leaves out the others. Whether a function is called at
all depends on the types of those that are left (`firstState?_isSome_iff`): **nothing runs if they are not the declared
ones**, and if they are, the function runs once. There is no answer if that call never ends. What it returns is of the
types that it declares, because its code is typed and the store of its instance suits it, so **a host is shown one
result for each declared one** (`run_invokes`).
-/
namespace WasmLens

open Wasm Machine

/-! ## Arguments -/

/-- The types inside a module of the arguments that are passed on. -/
def Session.passedTypes (args : List Value) : List ValType := args.filterMap (·.type.toValType?)

theorem Value.hasType_iff_of_toVal? {v : Value} {x : Val} {type : ValType} (passed : v.toVal? = some x) :
    x.hasType type ↔ v.type.toValType? = some type := by
  cases v <;> cases passed <;> cases type <;> simp [Val.hasType, Value.type, ValueType.toValType?]

/-- **Arguments fit** if their types are the declared ones, one for one. -/
theorem Session.fits_iff {args : List Value} {params : List ValType} :
    (args.filterMap Value.toVal?).length = params.length ∧
        ((args.filterMap Value.toVal?).zip params).all (fun (v, t) => v.hasType t) ↔ passedTypes args = params := by
  induction args generalizing params with
  | nil => cases params <;> simp [passedTypes]
  | cons v args ih =>
    cases passed : v.toVal? with
    | none =>
      have void : v.type.toValType? = none := by cases v <;> first | rfl | cases passed
      rw [passedTypes, List.filterMap_cons_none passed, List.filterMap_cons_none (a := v) void]
      exact ih
    | some x =>
      obtain ⟨type, typed⟩ : ∃ type, v.type.toValType? = some type := by
        cases v <;> first | exact ⟨_, rfl⟩ | cases passed
      rw [passedTypes, List.filterMap_cons_some passed, List.filterMap_cons_some (a := v) typed]
      cases params with
      | nil => simp
      | cons param params =>
        have first : x.hasType param ↔ v.type.toValType? = some param := Value.hasType_iff_of_toVal? passed
        rw [typed, Option.some.injEq] at first
        rw [List.cons.injEq, ← passedTypes, ← ih]
        simp only [List.length_cons, Nat.add_right_cancel_iff, List.zip_cons_cons, List.all_cons, Bool.and_eq_true,
          first]
        exact and_left_comm

/-- **A function is entered** exactly if the arguments fit. -/
theorem Machine.firstState?_isSome_iff {p : Program} {store : Store} {func : Nat} {g : Function}
    (found : p.functions[func]? = some g) (code : g.code.isSome) {args : List Value} :
    (firstState? p store func (args.filterMap Value.toVal?)).isSome ↔ Session.passedTypes args = g.type.params := by
  obtain ⟨body, code⟩ := Option.isSome_iff_exists.1 code
  rw [← Session.fits_iff]
  simp [firstState?, found, code]

/-! ## Results -/

/-- **What a host sees of a result** of some type: its bits, or nothing if there are no host values of the type. -/
structure Session.Reflects (type : ValType) (v : Val) (shown : Value) : Prop where
  typed : v.hasType type
  reflected : shown.type = type.reflect
  bits : type.reflect? ≠ none → shown.toVal? = some v
  void : type.reflect? = none → shown = .void

theorem Machine.Val.reflects {v : Val} {type : ValType} (typed : v.hasType type) :
    Session.Reflects type v v.toValue := by
  refine ⟨typed, Val.toValue_type typed, fun seen => ?_, fun unseen => ?_⟩
  · cases type with
    | v128 | ref => exact absurd rfl seen
    | i32 | i64 | f32 | f64 => cases v <;> first | rfl | cases typed
  · cases type with
    | v128 | ref => cases v <;> first | rfl | cases typed
    | i32 | i64 | f32 | f64 => cases unseen

namespace Session

variable {s : Session} {func : Nat} {args : List Value}

/-- **What comes of invoking** a function of some type once. -/
structure Invokes (s : Session) (func : Nat) (t : FuncType) (args : List Value)
    (answer : Option (Session × Except Error Invocation)) : Prop where
  /-- Other arguments than the declared ones are refused, and no code runs. -/
  unfit : passedTypes args ≠ t.params → ∃ i, answer = some (s, .ok i) ∧
    i.success = false ∧ i.results = [] ∧ i.result = .void ∧
      ∀ now, ¬Calls s.module.program s.store func (args.filterMap Value.toVal?) now
  /-- Otherwise the function is entered, and all that happens is one call of it. -/
  entered : passedTypes args = t.params →
    (firstState? s.module.program s.store func (args.filterMap Value.toVal?)).isSome
  /-- There is an answer unless that call never ends. -/
  endless : answer = none ↔ Machine.call s.module.program s.store func (args.filterMap Value.toVal?) = none
  trapped : passedTypes args = t.params → ∀ store cause,
    callOnce s.module.program s.store func (args.filterMap Value.toVal?) = some (store, .error cause) →
      ∃ i, answer = some ({ s with store }, .ok i) ∧ i.success = false ∧ i.results = []
  returned : passedTypes args = t.params → ∀ store values,
    callOnce s.module.program s.store func (args.filterMap Value.toVal?) = some (store, .ok values) →
      ∃ i, answer = some ({ s with store }, .ok i) ∧ i.success ∧ i.results.length = t.results.length ∧
        ∀ (k : Nat) type, t.results[k]? = some type →
          ∃ v shown, values[k]? = some v ∧ i.results[k]? = some shown ∧ Reflects type v shown

/-! ## Calls that are made once -/

/-- Nothing runs if a function is not entered. -/
theorem callOnce_unentered {p : Program} {store : Store} {a : List Val}
    (unentered : firstState? p store func a = none) :
    callOnce p store func a = some (store, .error .illTyped) ∧ ∀ now, ¬Calls p store func a now := by
  constructor
  · rw [callOnce, Machine.call, unentered]
  · rintro _ ⟨entered, _⟩
    rw [unentered] at entered
    cases entered

/-- **What a call returns** is what its function declares. -/
theorem callOnce_returned {c : Context} {p : Program} {store store' : Store} (program : p.Typed c)
    (suits : store.Suits c) {g : Function} (found : p.functions[func]? = some g) {a values : List Val}
    (returned : callOnce p store func a = some (store', .ok values)) :
    kindsOf values = g.type.results.map ValType.kind := by
  unfold callOnce at returned
  split at returned
  · rename_i outs called
    cases returned
    have gives : kindsOf outs = _ := call_gives program suits found called
    rw [kindsOf, List.map_reverse, ← kindsOf, gives, stackOf, List.reverse_reverse]
  · cases returned
  · cases returned

/-- A timer that makes one call measures it. -/
theorem measure_once (once : s.timer.runs = 1) : s.measure func args =
    (callOnce s.module.program s.store func (args.filterMap Value.toVal?)).map
      fun (store, last) => ({ s with store }, s.invocationOf last) := by
  rw [measure, once]
  cases called : callOnce s.module.program s.store func (args.filterMap Value.toVal?) <;>
    simp [callRepeatedly, called]

/-- **One call of a function** whose code is typed, on a store that suits it. -/
theorem measure_invokes {c : Context} (program : s.module.program.Typed c) (suits : s.store.Suits c) {g : Function}
    (found : s.module.program.functions[func]? = some g) (code : g.code.isSome) (once : s.timer.runs = 1) :
    Invokes s func g.type args ((s.measure func args).map fun (s', i) => (s', .ok i)) := by
  have entered : (firstState? s.module.program s.store func (args.filterMap Value.toVal?)).isSome ↔ _ :=
    firstState?_isSome_iff found code
  rw [measure_once once]
  refine ⟨fun differ => ?_, entered.2, ?_, fun _ store cause failed => ?_, fun _ store values returned => ?_⟩
  · have unentered := mt entered.1 differ
    rw [Option.not_isSome_iff_eq_none] at unentered
    obtain ⟨refused, nothing⟩ := callOnce_unentered unentered
    rw [refused]
    exact ⟨_, rfl, rfl, rfl, rfl, nothing⟩
  · rw [Option.map_eq_none_iff, Option.map_eq_none_iff, callOnce_eq_none_iff]
  · rw [failed]
    exact ⟨_, rfl, rfl, rfl⟩
  · have kinds := callOnce_returned program suits found returned
    rw [returned]
    refine ⟨_, rfl, rfl, ?_, fun k type declared => ?_⟩
    · simpa [kindsOf, invocationOf] using congrArg List.length kinds
    · have here := congrArg (·[k]?) kinds
      simp only [kindsOf, List.getElem?_map, declared, Option.map_some] at here
      obtain ⟨v, there, kind⟩ := Option.map_eq_some_iff.1 here
      refine ⟨v, v.toValue, there, ?_, Val.reflects (Val.hasType_iff.2 kind)⟩
      rw [invocationOf, List.getElem?_map, there, Option.map_some]

/-! ## All runs -/

/-- No argument is of a type that a host has no values of. -/
theorem passedTypes_ne {params : List ValType} (unreflected : ∃ type ∈ params, type.reflect? = none) :
    passedTypes args ≠ params := by
  rintro rfl
  obtain ⟨type, mem, none⟩ := unreflected
  obtain ⟨v, _, typed⟩ := List.mem_filterMap.1 mem
  cases v <;> cases typed <;> cases none

/-- **Every invocation of an exported function**, whatever the session has gone through: nothing runs unless the
arguments fit the declared parameters, and otherwise the function runs once. If that call ends, the invocation is an
answer and no fault, and the host is shown its results, with the types that the catalog tells. -/
theorem run_invokes {c : Config} {bytes : List UInt8} {s : Session} (h : compile c bytes = .ok s) (ops : List Op)
    (live : (s.run ops).phase = .instantiated) (once : (s.run ops).timer.runs = 1) {name : String} {func : Nat}
    (exported : s.module.outline.ExportsFunction name func) (args : List Value) :
    ∃ contents t e, (Sections.payloads bytes).mapM (Content.ofSection c.features) = .ok contents ∧
      Content.DeclaresFunction contents func t ∧ (s.run ops).catalog.ofIndex? func = some e ∧
        e.signature = ⟨t.params.map (·.reflect), t.results.map (·.reflect)⟩ ∧
          ((∃ type ∈ t.params, type.reflect? = none) → passedTypes args ≠ t.params) ∧
            Invokes (s.run ops) func t args ((s.run ops).invoke func args) := by
  have callable := run_callable_compiled h ops live args
  obtain ⟨r, m, compiles, rfl⟩ := compile_ok h
  have coherent := compiles.coherent
  have kept := run_kept (ofModule_kept coherent) ops
  have tabled := run_tabled (ofModule_kept coherent) (ofModule_tabled r.contents m) ops
  have cataloged := cataloged_of_live coherent compiles.located.1 ops live
  have called := callable.exported name func exported
  obtain ⟨context, declares, program⟩ := compiles.typed
  obtain ⟨g, found, declared, code⟩ := compiles.function (coherent.outline.exported _ exported rfl)
  obtain ⟨e, mem, rfl⟩ : ∃ e ∈ ((ofModule m).run ops).catalog.entries, e.index = func := by
    obtain ⟨e, named⟩ := Option.isSome_iff_exists.1 ((cataloged.exported name).2 ⟨func, exported⟩)
    obtain ⟨mem, here⟩ := (cataloged.get name e).1 named
    exact ⟨e, mem, callable.unique name e.index func here exported⟩
  have invokes : Invokes ((ofModule m).run ops) e.index g.type args _ :=
    measure_invokes (run_module (ofModule m) ops ▸ program) (kept.suits tabled live declares)
      (run_module (ofModule m) ops ▸ found) (code (cataloged.own ▸ Nat.zero_le e.index)) once
  refine ⟨r.contents, g.type, e, (Reading.ofBytes_ok_iff.1 compiles.read).1.decoded, declared,
    (cataloged.ofIndex e.index e).2 ⟨mem, rfl⟩, ?_, passedTypes_ne, ?_⟩
  · obtain ⟨type, sub, t, there, here, function, signature⟩ := cataloged.signature e mem
    rw [declared.unique ⟨type, sub, there, here, function⟩]
    exact signature
  · rw [called]
    exact invokes

/-- A module whose functions are exported: a division, one that gives a NaN and a vector, and one that takes a
vector. -/
def callsModule : List UInt8 :=
  Wasm.Sections.join
    [⟨Wasm.Section.typeId, [3, 0x60, 2, 0x7f, 0x7f, 1, 0x7f, 0x60, 1, 0x7e, 2, 0x7d, 0x7b, 0x60, 1, 0x7b, 0]⟩,
      ⟨Wasm.Section.functionId, [3, 0, 1, 2]⟩,
      ⟨Wasm.Section.exportId, [3, 1, 0x64, 0, 0, 1, 0x6d, 0, 1, 1, 0x76, 0, 2]⟩,
      ⟨Wasm.Section.codeId, [3, 7, 0, 0x20, 0, 0x20, 1, 0x6d, 0x0b,
        25, 0, 0x43, 0, 0, 0xa0, 0x7f, 0xfd, 0x0c, 1, 2, 3, 4, 5, 6, 7, 8, 9, 10, 11, 12, 13, 14, 15, 16, 0x0b,
        2, 0, 0x0b]⟩]

/-- An argument that is void is left out, and a result that no host has is shown as void. -/
theorem run_invokes_calls : ∃ s, compile {} callsModule = .ok s ∧
    ((s.run [.instantiate]).phase = .instantiated ∧ (s.run [.instantiate]).timer.runs = 1 ∧
      s.module.outline.ExportsFunction "m" 1) ∧
    ∃ contents t e, (Sections.payloads callsModule).mapM (Content.ofSection ({} : Config).features) = .ok contents ∧
      Content.DeclaresFunction contents 1 t ∧ (s.run [.instantiate]).catalog.ofIndex? 1 = some e ∧
        e.signature = ⟨t.params.map (·.reflect), t.results.map (·.reflect)⟩ ∧
          ((∃ type ∈ t.params, type.reflect? = none) → passedTypes [.void, .i64 7] ≠ t.params) ∧
            Invokes (s.run [.instantiate]) 1 t [.void, .i64 7]
              ((s.run [.instantiate]).invoke 1 [.void, .i64 7]) := by
  obtain ⟨s, compiled, live, once, exported⟩ : ∃ s, compile {} callsModule = .ok s ∧
      ((s.run [.instantiate]).phase = .instantiated ∧ (s.run [.instantiate]).timer.runs = 1 ∧
        s.module.outline.ExportsFunction "m" 1) := by
    unfold Outline.ExportsFunction
    decide +kernel
  exact ⟨s, compiled, ⟨live, once, exported⟩, run_invokes compiled [.instantiate] live once exported [.void, .i64 7]⟩

example : ∃ s, compile {} callsModule = .ok s ∧
    (((s.run [.instantiate]).measure 1 [.void, .i64 7]).map (·.2.results) = some [.f32 0x7fa00000, .void] ∧
      ((s.run [.instantiate]).measure 0 [.i32 8, .void, .i32 4]).map (·.2.results) = some [.i32 2] ∧
        ((s.run [.instantiate]).measure 0 [.i32 8, .i32 0]).map (·.2.success) = some false ∧
          ((s.run [.instantiate]).measure 2 [.void]).map (·.2.success) = some false) := by decide +kernel

end Session

end WasmLens
