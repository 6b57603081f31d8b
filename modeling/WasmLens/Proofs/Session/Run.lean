import WasmLens.Proofs.Machine.Instantiate
import WasmLens.Session.Invocation

/-!
# Runs of a session

What a host does with a session is a sequence of operations; `run` performs one after another, whatever
they answer. `Performs` lists **all that an operation can do**, with what has to hold for it, so that what
is kept by every operation is shown by going through the list (`performs`).

An operation whose code never ends is a fault of its own, after which the session is listed as it was
before. No host gets to another operation then, so whatever holds of every run here holds of those that there
are; what happens while the code runs is said by the moments of the operation.
-/
namespace WasmLens.Session

open Machine

/-! ## Operations -/

/-- What a host can ask of a session. -/
inductive Op where
  | declareMemory
  | declareGlobals
  | setGlobal (name : String) (v : Value)
  | getGlobal (name : String)
  | instantiate
  | invoke (func : Nat) (args : List Value)
  | call (name : String) (args : List Value)
  | readMemory (offset length : Nat)
  | writeMemory (offset : Nat) (bytes : List UInt8)
  | setTimer (timer : Timer)
  deriving Repr, DecidableEq

/-- What a session answers. -/
inductive Answer where
  | done
  | plan (p : Option MemoryPlan)
  | global (type : ValueType) (v : Value)
  | invocation (i : Invocation)
  | bytes (bytes : List UInt8)
  deriving Repr, DecidableEq

/-- Why there is no answer. -/
inductive Fault where
  | refused (cause : Error)
  /-- The host gives up on a memory. -/
  | unaddressable
  /-- Code of the module never ends. -/
  | endless
  deriving Repr, DecidableEq

def Fault.ofMemory : MemoryFault → Fault
  | .refused cause => .refused cause
  | .unaddressable => .unaddressable

/-- An answer, or the fault that there is none. -/
abbrev Reply := Except Fault Answer

def Reply.of {α : Type} (answer : α → Answer) (r : Except Error α) : Reply :=
  (r.map answer).mapError .refused

/-- What comes of an operation that runs code. -/
def awaited {α : Type} (s : Session) (answer : α → Answer) :
    Option (Session × Except Error α) → Session × Reply
  | some (s, r) => (s, Reply.of answer r)
  | none => (s, .error .endless)

/-- Performs one operation. -/
def perform (s : Session) : Op → Session × Reply
  | .declareMemory => s.declareMemory.map id fun r => (r.map .plan).mapError .ofMemory
  | .declareGlobals => s.declareGlobals.map id (Reply.of fun _ => .done)
  | .setGlobal name v => (s.setGlobal name v).map id (Reply.of fun _ => .done)
  | .getGlobal name => (s, .ok (.global (s.getGlobal name).1 (s.getGlobal name).2))
  | .instantiate => s.awaited (fun _ => .done) s.instantiate
  | .invoke func args => s.awaited .invocation (s.invoke func args)
  | .call name args => s.awaited .invocation (s.call name args)
  | .readMemory offset length => (s, Reply.of .bytes (s.readMemory offset length))
  | .writeMemory offset bytes => (s.writeMemory offset bytes).map id (Reply.of fun _ => .done)
  | .setTimer timer => (s.setTimer timer, .ok .done)

def run (s : Session) (ops : List Op) : Session := ops.foldl (fun s op => (s.perform op).1) s

/-- The index that an operation calls a function by. -/
def Op.target? (s : Session) : Op → Option (Nat × List Value)
  | .invoke func args => some (func, args)
  | .call name args => (s.catalog.get? name).map fun e => (e.index, args)
  | _ => none

/-! ## Code that never ends -/

section

variable {p : Program} {func : Nat} {args : List Val}

theorem callOnce_eq_none_iff {store : Store} :
    callOnce p store func args = none ↔ Machine.call p store func args = none := by
  rw [callOnce]
  rcases Machine.call p store func args with _ | ⟨⟩ | ⟨⟩ <;> simp

/-- **Repeated calls never end** exactly if one of them does not, those before it being over. -/
theorem callRepeatedly_eq_none_iff : ∀ {runs : Nat} {store : Store} {last : CallResult},
    callRepeatedly p func args runs store last = none ↔
      ∃ ended < runs, ∃ s last', callRepeatedly p func args ended store last = some (s, last') ∧
        Machine.call p s func args = none
  | 0, _, _ => by simp [callRepeatedly]
  | runs + 1, store, last => by
    rw [callRepeatedly]
    cases once : callOnce p store func args with
    | none =>
      exact iff_of_true rfl ⟨0, runs.succ_pos, store, last, rfl, callOnce_eq_none_iff.1 once⟩
    | some pair =>
      obtain ⟨store', last'⟩ := pair
      have returns : Machine.call p store func args ≠ none := fun endless => by
        rw [callOnce_eq_none_iff.2 endless] at once
        cases once
      simp only [Option.bind_eq_bind, Option.bind_some]
      rw [callRepeatedly_eq_none_iff]
      constructor
      · rintro ⟨ended, fewer, s, result, before, endless⟩
        refine ⟨ended + 1, Nat.succ_lt_succ fewer, s, result, ?_, endless⟩
        rw [callRepeatedly, once]
        exact before
      · rintro ⟨_ | ended, fewer, s, result, before, endless⟩
        · cases before
          exact absurd endless returns
        · rw [callRepeatedly, once] at before
          exact ⟨ended, Nat.lt_of_succ_lt_succ fewer, s, result, before, endless⟩

theorem measure_eq_none_iff {s : Session} {args : List Value} : s.measure func args = none ↔
    callRepeatedly s.module.program func (args.filterMap Value.toVal?) s.timer.runs s.store
      (initialResults s.module.program func) = none := Option.map_eq_none_iff

/-- **Linking never ends** exactly if the instance can be set up and the call of its start function never ends. -/
theorem link_eq_none_iff {s : Session} : s.link = none ↔
    ∃ externs ready func, s.imports.externs s.module.outline = .ok externs ∧
      mismatch? s.store externs s.module.image.imports = none ∧
        prepare s.store externs s.module.image s.module.config.bulkMemory = .ready ready ∧
          s.module.image.start = some func ∧ Machine.call s.module.program ready func [] = none := by
  unfold link
  cases bound : s.imports.externs s.module.outline with
  | error m => simp
  | ok externs => simp [instantiate_eq_none_iff]

end

/-! ## What an operation does -/

/-- All that an operation can do to a session and answer. -/
inductive Performs (s : Session) : Op → Session → Reply → Prop where
  /-- Nothing happens. Only a closed session refuses to be instantiated; an open one fails. -/
  | refused {op : Op} {fault : Fault} (early : op = .instantiate → s.phase.isOpen = false)
      (told : fault ≠ .endless) : Performs s op s (.error fault)
  | declaresMemory {imports : Imports} {store : Store} (isOpen : s.phase.isOpen)
      (declared : s.imports.declareMemory s.store s.module = .ok (imports, store)) :
      Performs s .declareMemory { s with imports, store, phase := .importsDeclared }
        (.ok (.plan imports.memoryPlan?))
  | declaresGlobals {imports : Imports} {store : Store} (isOpen : s.phase.isOpen)
      (declared : s.imports.declareGlobals s.store s.module = .ok (imports, store)) :
      Performs s .declareGlobals { s with imports, store, phase := .importsDeclared } (.ok .done)
  | setsGlobal {name : String} {v : Value} {imports : Imports} {store : Store}
      (set : s.imports.setGlobal s.store name v = .ok (imports, store)) :
      Performs s (.setGlobal name v) { s with imports, store } (.ok .done)
  | getsGlobal {name : String} {type : ValueType} {v : Value} (got : s.getGlobal name = (type, v)) :
      Performs s (.getGlobal name) s (.ok (.global type v))
  | fails {store : Store} {cause : Error} (isOpen : s.phase.isOpen) (linked : s.link = some (store, .error cause)) :
      Performs s .instantiate { s with store, phase := .failed } (.error (.refused cause))
  /-- The start function never ends. -/
  | starts (isOpen : s.phase.isOpen) (endless : s.link = none) :
      Performs s .instantiate s (.error .endless)
  | instantiates {store : Store} (isOpen : s.phase.isOpen) (linked : s.link = some (store, .ok ())) :
      Performs s .instantiate
        { s with
          store
          imports := { s.imports with isBound := true }
          live := some (Instance.ofModule s.module s.imports)
          catalog := Catalog.build s.module
          phase := .instantiated }
        (.ok .done)
  | calls {op : Op} {func : Nat} {args : List Value} {store : Store} {i : Invocation}
      (target : op.target? s = some (func, args)) (live : s.live.isSome)
      (measured : s.measure func args = some ({ s with store }, i)) :
      Performs s op { s with store } (.ok (.invocation i))
  /-- One of the calls never ends. -/
  | hangs {op : Op} {func : Nat} {args : List Value} (target : op.target? s = some (func, args))
      (live : s.live.isSome) (endless : s.measure func args = none) : Performs s op s (.error .endless)
  | reads {offset length : Nat} {bytes : List UInt8} (read : s.readMemory offset length = .ok bytes) :
      Performs s (.readMemory offset length) s (.ok (.bytes bytes))
  | writes {offset place : Nat} {bytes : List UInt8} {before buffer : Memory.Buffer}
      (here : s.memoryPlace = .ok place) (memory : s.memory = .ok before)
      (written : before.write offset bytes = .ok buffer) :
      Performs s (.writeMemory offset bytes)
        { s with store := { s.store with memories := s.store.memories.modify place ({ · with buffer }) } }
        (.ok .done)
  | setsTimer (timer : Timer) : Performs s (.setTimer timer) (s.setTimer timer) (.ok .done)

variable (s : Session)

theorem declareMemory_performs :
    Performs s .declareMemory (s.perform .declareMemory).1 (s.perform .declareMemory).2 := by
  simp only [perform, declareMemory, expectOpen]
  cases phase : s.phase.isOpen with
  | false => exact .refused nofun nofun
  | true =>
    cases declared : s.imports.declareMemory s.store s.module with
    | error fault =>
      refine .refused nofun ?_
      cases fault <;> nofun
    | ok pair => exact .declaresMemory phase declared

theorem declareGlobals_performs :
    Performs s .declareGlobals (s.perform .declareGlobals).1 (s.perform .declareGlobals).2 := by
  simp only [perform, declareGlobals, expectOpen]
  cases phase : s.phase.isOpen with
  | false => exact .refused nofun nofun
  | true =>
    cases declared : s.imports.declareGlobals s.store s.module with
    | error cause => exact .refused nofun nofun
    | ok pair => exact .declaresGlobals phase declared

theorem setGlobal_performs (name : String) (v : Value) :
    Performs s (.setGlobal name v) (s.perform (.setGlobal name v)).1 (s.perform (.setGlobal name v)).2 := by
  simp only [perform, setGlobal]
  cases set : s.imports.setGlobal s.store name v with
  | error cause => exact .refused nofun nofun
  | ok pair => exact .setsGlobal set

theorem instantiate_performs :
    Performs s .instantiate (s.perform .instantiate).1 (s.perform .instantiate).2 := by
  simp only [perform, instantiate, expectOpen]
  cases phase : s.phase.isOpen with
  | false => exact .refused (fun _ => phase) nofun
  | true =>
    rcases linked : s.link with _ | ⟨store, cause | _⟩
    · exact .starts phase linked
    · exact .fails phase linked
    · exact .instantiates phase linked

/-- Measuring a call changes nothing but the store. -/
theorem measure_eq {s : Session} {func : Nat} {args : List Value} {measured : Session × Invocation}
    (h : s.measure func args = some measured) : ∃ store i, measured = ({ s with store }, i) := by
  obtain ⟨last, _, eq⟩ := Option.map_eq_some_iff.1 h
  exact ⟨last.1, s.invocationOf last.2, eq.symm⟩

theorem calls_performs {op : Op} {func : Nat} {args : List Value} (target : op.target? s = some (func, args)) :
    Performs s op (s.awaited .invocation (s.invoke func args)).1
      (s.awaited .invocation (s.invoke func args)).2 := by
  have early (cause : Error) : Performs s op s (.error (.refused cause)) := by
    refine .refused (fun instantiating => ?_) nofun
    subst instantiating
    cases target
  unfold invoke
  split
  · exact early _
  · rename_i live
    split
    · exact early _
    · rw [Bool.not_eq_true, Option.isNone_eq_false_iff] at live
      cases measured : s.measure func args with
      | none => exact .hangs target live measured
      | some pair =>
        obtain ⟨store, i, rfl⟩ := measure_eq measured
        exact .calls target live measured

theorem call_performs (name : String) (args : List Value) :
    Performs s (.call name args) (s.perform (.call name args)).1 (s.perform (.call name args)).2 := by
  simp only [perform, call, Catalog.get]
  split
  · exact .refused nofun nofun
  · cases found : s.catalog.get? name with
    | none => exact .refused nofun nofun
    | some e =>
      have target : Op.target? s (.call name args) = some (e.index, args) := by
        simp only [Op.target?, found, Option.map_some]
      exact calls_performs s target

theorem readMemory_performs (offset length : Nat) : Performs s (.readMemory offset length)
    (s.perform (.readMemory offset length)).1 (s.perform (.readMemory offset length)).2 := by
  simp only [perform]
  cases read : s.readMemory offset length with
  | error cause => exact .refused nofun nofun
  | ok bytes => exact .reads read

theorem writeMemory_performs (offset : Nat) (bytes : List UInt8) : Performs s (.writeMemory offset bytes)
    (s.perform (.writeMemory offset bytes)).1 (s.perform (.writeMemory offset bytes)).2 := by
  simp only [perform, writeMemory]
  split
  · rename_i place before here memory
    cases written : before.write offset bytes with
    | error _ => exact .refused nofun nofun
    | ok buffer => exact .writes here memory written
  · exact .refused nofun nofun
  · exact .refused nofun nofun

/-- **Everything an operation does is in the list.** -/
theorem performs : ∀ op : Op, Performs s op (s.perform op).1 (s.perform op).2
  | .declareMemory => declareMemory_performs s
  | .declareGlobals => declareGlobals_performs s
  | .setGlobal name v => setGlobal_performs s name v
  | .getGlobal _ => .getsGlobal rfl
  | .instantiate => instantiate_performs s
  | .invoke _ _ => calls_performs s rfl
  | .call name args => call_performs s name args
  | .readMemory offset length => readMemory_performs s offset length
  | .writeMemory offset bytes => writeMemory_performs s offset bytes
  | .setTimer timer => .setsTimer timer

/-! ## Runs -/

theorem run_append (ops later : List Op) : s.run (ops ++ later) = (s.run ops).run later :=
  List.foldl_append

/-- **What every operation keeps, a run keeps.** -/
theorem run_keeps (P : Session → Prop) (step : ∀ s op s' reply, P s → Performs s op s' reply → P s') :
    ∀ (ops : List Op) {s : Session}, P s → P (s.run ops)
  | [], _, h => h
  | op :: ops, s, h => run_keeps P step ops (step s op _ _ h (performs s op))

end WasmLens.Session
