import WasmLens.Proofs.Session.Invoking

/-!
# Calls that a timer repeats

A timer is handed a call and makes it as often as it likes, or not at all. How the call ended and the place for its
results outlive each of these runs (`Capture`). Still **nothing of an earlier run is seen**: an invocation is what the
last run alone gives, on the store that the others have left (`Repeats`), whichever of them trapped.
-/
namespace WasmLens

open Wasm Machine

theorem Machine.Val.toValue_zero (type : ValType) : (Val.zero type).toValue = .zero type.reflect := by
  cases type <;> rfl

namespace Session

/-! ## What runs leave behind -/

/-- What all runs of a measured call write to. -/
structure Capture where
  /-- How the last run has ended. -/
  outcome : Except Trap Unit
  /-- The place for results. -/
  results : List Val

namespace Capture

/-- Before the first run nothing has failed, and the place for results has the zeros of their types. -/
def fresh (p : Program) (func : Nat) : Capture where
  outcome := .ok ()
  results := ((p.functions[func]?).map (·.type.results)).getD [] |>.map Val.zero

/-- One more run, unless it never ends. What a run that traps leaves in the place for results is up to the
engine. -/
def again (spoil : Trap → List Val → List Val) (p : Program) (func : Nat) (args : List Val) :
    Store × Capture → Option (Store × Capture)
  | (store, c) => (callOnce p store func args).map fun
    | (store, .ok values) => (store, ⟨.ok (), values⟩)
    | (store, .error cause) => (store, ⟨.error cause, spoil cause c.results⟩)

/-- A number of runs, one after another. -/
def runs (spoil : Trap → List Val → List Val) (p : Program) (func : Nat) (args : List Val) :
    (count : Nat) → Store × Capture → Option (Store × Capture)
  | 0, now => some now
  | count + 1, now => (again spoil p func args now).bind (runs spoil p func args count)

/-- The results are looked at only if the last run has returned. -/
def result (c : Capture) : CallResult := c.outcome.map fun _ => c.results

/-- What a host is shown: whether the last run has returned, and its results. -/
def shown (c : Capture) : Bool × List Value :=
  match c.outcome with
  | .ok () => (true, c.results.map Val.toValue)
  | .error _ => (false, [])

theorem shown_eq (s : Session) (c : Capture) :
    c.shown = ((s.invocationOf c.result).success, (s.invocationOf c.result).results) := by
  obtain ⟨_ | _, results⟩ := c <;> rfl

variable (spoil : Trap → List Val → List Val) {p : Program} {func : Nat} {args : List Val}

/-- A run does what a call does, and its result does not depend on the runs before it. -/
theorem again_eq {store store' : Store} {last : CallResult} (c : Capture)
    (called : callOnce p store func args = some (store', last)) :
    ∃ c', c'.result = last ∧ again spoil p func args (store, c) = some (store', c') := by
  rw [again, called]
  cases last with
  | ok values => exact ⟨⟨.ok (), values⟩, rfl, rfl⟩
  | error cause => exact ⟨⟨.error cause, spoil cause c.results⟩, rfl, rfl⟩

/-- **Runs that share what they write to** come to the same as calls of which only the last result is kept. -/
theorem runs_eq : ∀ {count : Nat} {store store' : Store} {last : CallResult} (c : Capture),
    callRepeatedly p func args count store c.result = some (store', last) →
      ∃ c', c'.result = last ∧ runs spoil p func args count (store, c) = some (store', c')
  | 0, _, _, _, c, ended => by
    cases ended
    exact ⟨c, rfl, rfl⟩
  | count + 1, store, _, _, c, ended => by
    obtain ⟨⟨next, result⟩, once, rest⟩ := Option.bind_eq_some_iff.1 ended
    obtain ⟨c', rfl, first⟩ := again_eq spoil c once
    rw [runs, first]
    exact runs_eq c' rest

end Capture

/-! ## Calls in a row -/

/-- **The last call** is made on the store that the others have left. -/
theorem callRepeatedly_succ (p : Program) (func : Nat) (args : List Val) : ∀ (runs : Nat) (store : Store)
    (last : CallResult), callRepeatedly p func args (runs + 1) store last =
      (callRepeatedly p func args runs store last).bind fun (store, _) => callOnce p store func args
  | 0, store, _ => Option.bind_fun_some (callOnce p store func args)
  | runs + 1, store, last => by
    rw [callRepeatedly, callRepeatedly]
    cases callOnce p store func args with
    | none => rfl
    | some next => exact callRepeatedly_succ p func args runs next.1 next.2

variable {m : CompiledModule} {s : Session} {func : Nat} {args : List Value}

/-- The store and the last result of so many calls. -/
def callsInRow (s : Session) (func : Nat) (args : List Value) (count : Nat) : Option (Store × CallResult) :=
  callRepeatedly s.module.program func (args.filterMap Value.toVal?) count s.store
    (initialResults s.module.program func)

theorem callsInRow_succ (count : Nat) : s.callsInRow func args (count + 1) =
    (s.callsInRow func args count).bind fun (store, _) =>
      callOnce s.module.program store func (args.filterMap Value.toVal?) :=
  callRepeatedly_succ _ _ _ _ _ _

/-- A measured call is as many calls as the timer makes, with the time that it reports. -/
theorem measure_eq_calls : s.measure func args = (s.callsInRow func args s.timer.runs).map
    fun (store, last) => ({ s with store }, s.invocationOf last) := rfl

/-- What a session offers to be called does not depend on its store and its timer. -/
theorem Serves.congr {s' : Session} (serves : Serves m s) (live : s'.live = s.live) (catalog : s'.catalog = s.catalog) :
    Serves m s' where
  live := live ▸ serves.live
  listed := catalog ▸ serves.listed
  named := catalog ▸ serves.named
  handled func := by
    rw [canCall, live]
    exact serves.handled func

/-- The session after some invocations of a function in a row, with a timer that makes one call each. There is
none if one of them never ends. -/
def repeated (s : Session) (single : Timer) (func : Nat) (args : List Value) : (count : Nat) → Option Session
  | 0 => some (s.setTimer single)
  | count + 1 => (s.repeated single func args count).bind fun s => (s.invoke func args).map (·.1)

section

variable (serves : Serves m s) {name : String} (exported : m.outline.ExportsFunction name func) {single : Timer}
  (once : single.runs = 1)

include serves exported once

/-- **An invocation of one call**, on a store that earlier ones have left. -/
theorem invoke_single (store : Store) : ({ s with timer := single, store } : Session).invoke func args =
    (callOnce s.module.program store func (args.filterMap Value.toVal?)).map fun (store', last) =>
      ({ s with timer := single, store := store' }, .ok ((s.setTimer single).invocationOf last)) := by
  have offered : Serves m { s with timer := single, store } := serves.congr rfl rfl
  rw [offered.invoke_exported args exported, measure_once once, Option.map_map]
  rfl

/-- **Invocations of one call each**, one after another, leave what as many calls leave. -/
theorem repeated_eq : ∀ count : Nat, s.repeated single func args count =
    (s.callsInRow func args count).map fun (store, _) => { s with timer := single, store }
  | 0 => rfl
  | count + 1 => by
    rw [repeated, repeated_eq count, callsInRow_succ]
    cases s.callsInRow func args count with
    | none => rfl
    | some ended =>
      have next : ({ s with timer := single, store := ended.1 } : Session).invoke func args = _ :=
        invoke_single serves exported once ended.1
      simp only [Option.map_some, Option.bind_some, next, Option.map_map]
      rfl

end

/-! ## Measured calls -/

/-- **What comes of an invocation** whose timer makes any number of calls, all of which end. -/
structure Repeats (s : Session) (func : Nat) (t : FuncType) (args : List Value) (s' : Session) (i : Invocation) :
    Prop where
  /-- The time is the one that the timer reports. -/
  elapsed : i.elapsed = s.timer.elapsed?
  /-- The session is left as by so many invocations of one call each. -/
  effects : ∀ single : Timer, single.runs = 1 →
    (s.repeated single func args s.timer.runs).map (·.setTimer s.timer) = some s'
  /-- What is shown is what the last of them alone shows. -/
  last : ∀ (single : Timer) (earlier : Nat), single.runs = 1 → s.timer.runs = earlier + 1 →
    ∃ before after j, s.repeated single func args earlier = some before ∧
      before.invoke func args = some (after, .ok j) ∧ i.success = j.success ∧ i.results = j.results
  /-- Without a call there are the zeros of the declared results, and nothing changes. -/
  never : s.timer.runs = 0 → s' = s ∧ i.success ∧ i.results = t.results.map fun type => .zero type.reflect
  /-- That the runs share what they write to is not seen, whatever a trap leaves there. -/
  shared : ∀ spoil, ∃ c, Capture.runs spoil s.module.program func (args.filterMap Value.toVal?) s.timer.runs
      (s.store, .fresh s.module.program func) = some (s'.store, c) ∧ c.shown = (i.success, i.results)

theorem invocationOf_elapsed (s : Session) (last : CallResult) : (s.invocationOf last).elapsed = s.timer.elapsed? := by
  cases last <;> rfl

/-- What is shown of a call does not depend on the time that it took. -/
theorem invocationOf_setTimer (s : Session) (timer : Timer) (last : CallResult) :
    (s.invocationOf last).success = ((s.setTimer timer).invocationOf last).success ∧
      (s.invocationOf last).results = ((s.setTimer timer).invocationOf last).results := by
  cases last <;> exact ⟨rfl, rfl⟩

/-- **A measured call** of a function that an instance offers. -/
theorem measure_repeats (serves : Serves m s) {name : String} (exported : m.outline.ExportsFunction name func)
    {g : Function} (found : s.module.program.functions[func]? = some g) {s' : Session} {i : Invocation}
    (measured : s.measure func args = some (s', i)) : Repeats s func g.type args s' i := by
  rw [measure_eq_calls] at measured
  obtain ⟨⟨store, result⟩, ended, eq⟩ := Option.map_eq_some_iff.1 measured
  cases eq
  refine ⟨s.invocationOf_elapsed result, fun single once => ?_, fun single earlier once count => ?_, fun none => ?_,
    fun spoil => ?_⟩
  · rw [repeated_eq serves exported once, ended]
    rfl
  · rw [count, callsInRow_succ] at ended
    obtain ⟨⟨before, _⟩, earlierEnded, called⟩ := Option.bind_eq_some_iff.1 ended
    have next : ({ s with timer := single, store := before } : Session).invoke func args = _ :=
      invoke_single serves exported once before
    rw [show callOnce s.module.program before func _ = some (store, result) from called] at next
    obtain ⟨success, results⟩ := s.invocationOf_setTimer single result
    refine ⟨_, _, _, ?_, next, success, results⟩
    rw [repeated_eq serves exported once, earlierEnded]
    rfl
  · rw [none] at ended
    cases ended
    refine ⟨rfl, ?_⟩
    simp [initialResults, invocationOf, found, Val.toValue_zero]
  · obtain ⟨c, rfl, eq⟩ := Capture.runs_eq spoil (.fresh s.module.program func) ended
    exact ⟨c, eq, c.shown_eq s⟩

/-- **Every invocation of an exported function**, whatever the session has gone through and whatever its timer does: as
many calls of the function are made. If one of them never ends, there is no answer. Otherwise the host is told the time
that the timer reports, and it is shown what the last call gave. Nothing is left over from the others, whether they
returned or trapped. -/
theorem run_repeats {c : Config} {bytes : List UInt8} {s : Session} (h : compile c bytes = .ok s) (ops : List Op)
    (live : (s.run ops).phase = .instantiated) {name : String} {func : Nat}
    (exported : s.module.outline.ExportsFunction name func) (args : List Value) :
    ∃ contents t, (Sections.payloads bytes).mapM (Content.ofSection c.features) = .ok contents ∧
      Content.DeclaresFunction contents func t ∧
      (∀ single : Timer, single.runs = 1 → ((s.run ops).invoke func args = none ↔
        (s.run ops).repeated single func args (s.run ops).timer.runs = none)) ∧
      ∀ s' answer, (s.run ops).invoke func args = some (s', answer) →
        ∃ i, answer = .ok i ∧ Repeats (s.run ops) func t args s' i := by
  obtain ⟨r, m, compiles, rfl⟩ := compile_ok h
  have coherent := compiles.coherent
  have serves := serves_of_live coherent compiles.covers ops live
  obtain ⟨g, found, declared, _⟩ := compiles.function (coherent.outline.exported _ exported rfl)
  refine ⟨r.contents, g.type, (Reading.ofBytes_ok_iff.1 compiles.read).1.decoded, declared, fun single once => ?_,
    fun s' answer answered => ?_⟩
  · rw [serves.invoke_exported args exported, measure_eq_calls, repeated_eq serves exported once,
      Option.map_eq_none_iff, Option.map_eq_none_iff, Option.map_eq_none_iff]
  · rw [serves.invoke_exported args exported] at answered
    obtain ⟨⟨_, i⟩, measured, eq⟩ := Option.map_eq_some_iff.1 answered
    cases eq
    exact ⟨i, rfl, measure_repeats serves exported (run_module (ofModule m) ops ▸ found) measured⟩

/-- A module that counts calls of its function, the second of which divides by zero. -/
def countingModule : List UInt8 :=
  Wasm.Sections.join
    [⟨Wasm.Section.typeId, [1, 0x60, 0, 2, 0x7f, 0x70]⟩,
      ⟨Wasm.Section.functionId, [1, 0]⟩,
      ⟨Wasm.Section.globalId, [1, 0x7f, 1, 0x41, 0, 0x0b]⟩,
      ⟨Wasm.Section.exportId, [1, 1, 0x6e, 0, 0]⟩,
      ⟨Wasm.Section.codeId, [1, 19, 0, 0x23, 0, 0x41, 1, 0x6a, 0x24, 0, 0x41, 6, 0x23, 0, 0x41, 2, 0x6b, 0x6d,
        0xd0, 0x70, 0x0b]⟩]

/-- Three calls, of which the one in the middle traps. -/
theorem run_repeats_counting : ∃ s, compile {} countingModule = .ok s ∧
    ((s.run [.instantiate, .setTimer (.fake 3 5)]).phase = .instantiated ∧
      s.module.outline.ExportsFunction "n" 0) ∧
    ∃ contents t s' i, (Sections.payloads countingModule).mapM (Content.ofSection ({} : Config).features) =
        .ok contents ∧
      Content.DeclaresFunction contents 0 t ∧
        (s.run [.instantiate, .setTimer (.fake 3 5)]).invoke 0 [] = some (s', .ok i) ∧
          Repeats (s.run [.instantiate, .setTimer (.fake 3 5)]) 0 t [] s' i := by
  obtain ⟨s, compiled, live, exported, ends⟩ : ∃ s, compile {} countingModule = .ok s ∧
      ((s.run [.instantiate, .setTimer (.fake 3 5)]).phase = .instantiated ∧
        s.module.outline.ExportsFunction "n" 0 ∧
          ((s.run [.instantiate, .setTimer (.fake 3 5)]).invoke 0 []).isSome) := by
    unfold Outline.ExportsFunction
    decide +kernel
  obtain ⟨⟨s', answer⟩, invoked⟩ := Option.isSome_iff_exists.1 ends
  obtain ⟨contents, t, decoded, declared, _, answers⟩ :=
    run_repeats compiled [.instantiate, .setTimer (.fake 3 5)] live exported []
  obtain ⟨i, rfl, repeats⟩ := answers s' answer invoked
  exact ⟨s, compiled, ⟨live, exported⟩, contents, t, s', i, decoded, declared, invoked, repeats⟩

example : ∃ s, compile {} countingModule = .ok s ∧
    ([0, 1, 2, 3].map fun runs => ((s.run [.instantiate, .setTimer (.fake runs 5)]).measure 0 []).map (·.2)) =
      [some ⟨true, some 5, [.i32 0, .void]⟩, some ⟨true, some 5, [.i32 (-6), .void]⟩, some ⟨false, some 5, []⟩,
        some ⟨true, some 5, [.i32 6, .void]⟩] := by decide +kernel

end Session

end WasmLens
