import WasmLens.Proofs.Machine.Instantiate
import WasmLens.Proofs.Machine.Run
import WasmLens.Proofs.Module.Compiled
import WasmLens.Proofs.Session.Run

/-!
# The moments of a session

A host sees the store of a session between operations. Module code runs in between: in the start function
and in calls, which a timer can repeat. `During` has the stores of all these moments, so that **what holds
during every operation holds whenever code of the module can look** (`During.keeps`).
-/
namespace WasmLens

open Machine

/-! ## All code -/

namespace Machine

/-- All code is within all operators. -/
theorem Code.within_all (c : Code) : c.Within fun _ => True := by
  match c with
  | .plain _ => exact .plain trivial
  | .block _ _ body => exact .block fun c _ => within_all c
  | .loop _ body => exact .loop fun c _ => within_all c
  | .branch _ _ yes no => exact .branch (fun c _ => within_all c) fun c _ => within_all c
termination_by c

theorem Program.within_all (p : Program) : p.Within fun _ => True :=
  fun _ _ _ _ c _ => c.within_all

end Machine

namespace Session

/-! ## Repeated calls -/

section

variable {P : Wasm.Operator → Prop} {I : Store → Prop} {p : Program}
  (keeps : ∀ {op s s'}, P op → I s → s.Changes op s' → I s') (program : p.Within P)

include keeps program

/-- What every operator of a program keeps, repeated calls keep. -/
theorem callRepeatedly_keeps {func : Nat} {args : List Val} : ∀ {runs : Nat} {s s' : Store}
    {last last' : CallResult}, callRepeatedly p func args runs s last = some (s', last') → I s → I s'
  | 0, _, _, _, _, ended, before => by
    cases ended
    exact before
  | runs + 1, s, _, _, _, ended, before => by
    obtain ⟨⟨next, result⟩, once, rest⟩ := Option.bind_eq_some_iff.1 ended
    have kept : I next := by
      unfold callOnce at once
      split at once
      · rename_i called
        cases once
        exact call_keeps keeps program called before
      · rename_i called
        cases once
        exact call_keeps keeps program called before
      · cases once
    exact callRepeatedly_keeps rest kept

/-- What every operator of a program keeps, an instantiation keeps once the instance is set up. -/
theorem runStart_keeps {s : Store} {start : Option Nat} {outcome : Instantiation}
    (ran : runStart p s start = some outcome) (before : I s) : I outcome.store := by
  cases start with
  | none =>
    cases ran
    exact before
  | some func =>
    unfold runStart at ran
    dsimp only at ran
    split at ran
    · rename_i called
      cases ran
      exact call_keeps keeps program called before
    · rename_i called
      cases ran
      exact call_keeps keeps program called before
    · cases ran

end

/-! ## Instantiating -/

section

variable {P : Wasm.Operator → Prop} {I : Store → Prop} {p : Program} {s : Store} {externs : List Extern}
  {i : Image} (bulkMemory : Bool)

/-- What holds of the allocated store, and does not depend on contents, holds once an instance is set up. -/
theorem prepare_keeps (alike : ∀ {s s' : Store}, s.Alike s' → I s → I s') (before : I s)
    (allocated : oversized? s.memoryLimit i.memories = none → I (allocate (bind s externs) i)) :
    I (prepare s externs i bulkMemory).store := by
  have way := prepares s externs i bulkMemory
  generalize prepare s externs i bulkMemory = outcome at way ⊢
  cases way with
  | oversized => exact before
  | elements small | data small => exact allocated small
  | segments small kept | ready small kept => exact alike kept (allocated small)

/-- What every operator of a program keeps, and does not depend on contents, an instantiation keeps. -/
theorem instantiate_keeps (keeps : ∀ {op s s'}, P op → I s → s.Changes op s' → I s') (program : p.Within P)
    (alike : ∀ {s s' : Store}, s.Alike s' → I s → I s') (before : I s)
    (allocated : oversized? s.memoryLimit i.memories = none → I (allocate (bind s externs) i))
    {outcome : Instantiation} (ended : Machine.instantiate s externs i p bulkMemory = some outcome) :
    I outcome.store := by
  have ready := prepare_keeps bulkMemory alike before allocated
  have way := instantiates s externs i p bulkMemory
  generalize Machine.instantiate s externs i p bulkMemory = result at way ended
  cases way with
  | mismatched =>
    cases ended
    exact before
  | unprepared =>
    cases ended
    exact ready
  | prepared _ prepared =>
    rw [prepared] at ready
    exact runStart_keeps keeps program ended ready

end

/-- **Linking** leaves the store alone, or instantiates on it. -/
theorem link_keeps {P : Wasm.Operator → Prop} {I : Store → Prop} {s : Session}
    {linked : Store × Except Error Unit} (h : s.link = some linked)
    (keeps : ∀ {op s s'}, P op → I s → s.Changes op s' → I s') (program : s.module.program.Within P)
    (alike : ∀ {s s' : Store}, s.Alike s' → I s → I s') (before : I s.store)
    (allocated : ∀ externs, s.imports.externs s.module.outline = .ok externs →
      oversized? s.store.memoryLimit s.module.image.memories = none →
        I (allocate (bind s.store externs) s.module.image)) : I linked.1 := by
  unfold link at h
  split at h
  · cases h
    exact before
  · rename_i externs bound
    obtain ⟨outcome, ended, rfl⟩ := Option.map_eq_some_iff.1 h
    have kept := instantiate_keeps s.module.config.bulkMemory keeps program alike before
      (allocated externs bound) ended
    cases outcome <;> exact kept

/-- A session that could be linked has set up the instance and run the start function. -/
theorem link_ok {s : Session} {store : Store} (h : s.link = some (store, .ok ())) :
    ∃ externs ready, s.imports.externs s.module.outline = .ok externs ∧
      prepare s.store externs s.module.image s.module.config.bulkMemory = .ready ready ∧
        oversized? s.store.memoryLimit s.module.image.memories = none ∧
          (allocate (bind s.store externs) s.module.image).Alike ready ∧
            runStart s.module.program ready s.module.image.start = some (.ready store) := by
  unfold link at h
  split at h
  · cases h
  · rename_i externs bound
    obtain ⟨outcome, instantiated, answer⟩ := Option.map_eq_some_iff.1 h
    cases outcome with
    | unlinkable | trapped => cases answer
    | ready =>
      cases answer
      have prepares := prepares s.store externs s.module.image s.module.config.bulkMemory
      have way := instantiates s.store externs s.module.image s.module.program s.module.config.bulkMemory
      generalize Machine.instantiate s.store externs s.module.image s.module.program
        s.module.config.bulkMemory = outcome at instantiated way
      cases way with
      | mismatched => cases instantiated
      | unprepared _ unready => exact absurd (Option.some.inj instantiated) (unready store)
      | @prepared ready _ prepared =>
        rw [prepared] at prepares
        cases prepares with
        | ready small kept => exact ⟨externs, ready, bound, prepared, small, kept, instantiated⟩

/-- What every operator of a program keeps, a measured call keeps. -/
theorem measure_keeps {P : Wasm.Operator → Prop} {I : Store → Prop} {s : Session} {func : Nat}
    {args : List Value} {store : Store} {i : Invocation}
    (keeps : ∀ {op s s'}, P op → I s → s.Changes op s' → I s') (program : s.module.program.Within P)
    (measured : s.measure func args = some ({ s with store }, i)) (before : I s.store) : I store := by
  obtain ⟨⟨store', last⟩, ended, eq⟩ := Option.map_eq_some_iff.1 measured
  obtain rfl : store' = store := congrArg (·.1.store) eq
  exact callRepeatedly_keeps keeps program ended before

/-! ## Moments -/

/-- The stores that there are while an operation is performed: the one before it, those of the calls that
it makes, and the one behind it. -/
inductive During (s : Session) : Op → Store → Prop where
  | before (op : Op) : During s op s.store
  /-- The start function is called when the instance has been set up. -/
  | starting {externs : List Extern} {ready now : Store} {func : Nat} (isOpen : s.phase.isOpen)
      (bound : s.imports.externs s.module.outline = .ok externs)
      (prepared : prepare s.store externs s.module.image s.module.config.bulkMemory = .ready ready)
      (start : s.module.image.start = some func) (calls : Calls s.module.program ready func [] now) :
      During s .instantiate now
  /-- A function is called, as often as the timer does. -/
  | calling {op : Op} {func runs : Nat} {args : List Value} {ready now : Store} {last : CallResult}
      (target : op.target? s = some (func, args)) (live : s.live.isSome) (again : runs < s.timer.runs)
      (earlier : callRepeatedly s.module.program func (args.filterMap Value.toVal?) runs s.store
        (initialResults s.module.program func) = some (ready, last))
      (calls : Calls s.module.program ready func (args.filterMap Value.toVal?) now) : During s op now
  | after (op : Op) : During s op (s.perform op).1.store

/-- **What every operator of the module keeps**, and does not depend on contents, holds during an operation, if
it holds before and behind it and once the module's definitions are allocated. -/
theorem During.keeps {P : Wasm.Operator → Prop} {I : Store → Prop} {s : Session} {op : Op} {now : Store}
    (h : During s op now) (keeps : ∀ {op s s'}, P op → I s → s.Changes op s' → I s')
    (program : s.module.program.Within P) (alike : ∀ {s s' : Store}, s.Alike s' → I s → I s')
    (before : I s.store) (after : I (s.perform op).1.store)
    (allocated : ∀ externs, s.phase.isOpen → s.imports.externs s.module.outline = .ok externs →
      oversized? s.store.memoryLimit s.module.image.memories = none →
        I (allocate (bind s.store externs) s.module.image)) : I now := by
  cases h with
  | before => exact before
  | starting isOpen bound prepared _ calls =>
    have ready := prepare_keeps s.module.config.bulkMemory alike before
      (allocated _ isOpen bound)
    rw [prepared] at ready
    exact calls.keeps keeps program ready
  | calling _ _ _ earlier calls =>
    exact calls.keeps keeps program (callRepeatedly_keeps keeps program earlier before)
  | after => exact after

/-! ## What no operation changes -/

/-- A session starts with a module that is coherent, and is all new. -/
theorem compile_ok {c : Config} {bytes : List UInt8} {s : Session} (h : compile c bytes = .ok s) :
    ∃ r m, CompiledModule.Compiles c bytes r m ∧ s = ofModule m := by
  obtain ⟨_, _, m, compiled, eq⟩ := by simpa only [compile, bind_eq_ok_iff, pure_eq_ok_iff] using h
  obtain ⟨r, compiles⟩ := CompiledModule.ofBytes_ok compiled
  exact ⟨r, m, compiles, eq.symm⟩

/-- A session stays one of its module. -/
theorem Performs.module {s s' : Session} {op : Op} {reply : Reply} (h : Performs s op s' reply) :
    s'.module = s.module := by
  cases h <;> rfl

/-- What every operation keeps on sessions of a module, a run keeps. -/
theorem run_keeps_of_module (P : Session → Prop) {s : Session}
    (step : ∀ s' op s'' reply, s'.module = s.module → P s' → Performs s' op s'' reply → P s'') (start : P s)
    (ops : List Op) : P (s.run ops) := by
  refine (run_keeps (fun s' => s'.module = s.module ∧ P s') ?_ ops ⟨rfl, start⟩).2
  rintro s' op s'' reply ⟨same, holds⟩ performed
  exact ⟨performed.module.trans same, step s' op s'' reply same holds performed⟩

theorem run_module (s : Session) (ops : List Op) : (s.run ops).module = s.module :=
  run_keeps_of_module (fun s' => s'.module = s.module) (fun _ _ _ _ same _ performed => performed.module.trans same)
    rfl ops

end Session

end WasmLens
