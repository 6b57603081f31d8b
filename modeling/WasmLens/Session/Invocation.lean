import WasmLens.Session.Basic

/-!
# Invocations

Calling functions of an instance from outside. Only the arguments that a module has values for are
passed on. A call that traps, or whose arguments do not fit, is no error of the session: it is an
invocation without success. Of a call that never ends there is no invocation.
-/
namespace WasmLens.Session

open Machine

/-- The outcome of a measured call. -/
structure Invocation where
  success : Bool
  /-- The nanoseconds that the timer reports, unless it measures them. -/
  elapsed : Option Nat
  results : List Value
  deriving Repr, DecidableEq

namespace Invocation

/-- The first result. -/
def result (i : Invocation) : Value := i.results.headD .void

/-- Nanoseconds as a word, the largest one if they do not fit. -/
def clampNanos (n : Nat) : Nat := min n (twoTo 64 - 1)

def elapsedNanos? (i : Invocation) : Option Nat := i.elapsed.map clampNanos

end Invocation

/-- What a function has given when it was called last; results are in order. -/
abbrev CallResult := Except Trap (List Val)

/-- Calls a function once. -/
def callOnce (p : Program) (s : Store) (func : Nat) (args : List Val) : Option (Store × CallResult) :=
  match Machine.call p s func args with
  | some (.returned s results) => some (s, .ok results.reverse)
  | some (.trapped s cause) => some (s, .error cause)
  | none => none

/-- Calls a function `runs` times and keeps the last result. -/
def callRepeatedly (p : Program) (func : Nat) (args : List Val) :
    (runs : Nat) → Store → CallResult → Option (Store × CallResult)
  | 0, s, last => some (s, last)
  | runs + 1, s, _ => do
    let (s, last) ← callOnce p s func args
    callRepeatedly p func args runs s last

/-- The results that a function has before it is called: the zeros of their types. -/
def initialResults (p : Program) (func : Nat) : CallResult :=
  .ok (((p.functions[func]?).map (·.type.results)).getD [] |>.map Val.zero)

/-- The invocation that a last result makes. -/
def invocationOf (s : Session) : CallResult → Invocation
  | .ok results => ⟨true, s.timer.elapsed?, results.map Val.toValue⟩
  | .error _ => ⟨false, s.timer.elapsed?, []⟩

/-- Calls a function as often as the timer does. -/
def measure (s : Session) (func : Nat) (args : List Value) : Option (Session × Invocation) :=
  let program := s.module.program
  (callRepeatedly program func (args.filterMap Value.toVal?) s.timer.runs s.store
    (initialResults program func)).map fun (store, last) => ({ s with store }, s.invocationOf last)

/-- Calls a function by its index. -/
def invoke (s : Session) (func : Nat) (args : List Value) : Option (Session × Except Error Invocation) :=
  if s.live.isNone then some (s, .error .notInstantiated)
  else if (s.catalog.ofIndex? func).isNone || !s.canCall func then some (s, .error (.notExported func))
  else (s.measure func args).map fun (s, invocation) => (s, .ok invocation)

/-- Calls a function by a name that it is exported under. -/
def call (s : Session) (name : String) (args : List Value) : Option (Session × Except Error Invocation) :=
  if s.live.isNone then some (s, .error .notInstantiated)
  else
    match s.catalog.get name with
    | .ok e => s.invoke e.index args
    | .error cause => some (s, .error cause)

end WasmLens.Session
