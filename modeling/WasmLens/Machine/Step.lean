import WasmLens.Machine.Code
import WasmLens.Machine.Numeric
import WasmLens.Machine.Store

/-!
# Running code

A machine runs one operator at a time: `step` takes a state to the next one, or ends the call. Every
block keeps the operands of the block around it, so the stack of the innermost block holds nothing
else than what that block may touch. `run` takes as many steps as it needs; a call that none of them ends
has no outcome.
-/
namespace WasmLens.Machine

open Wasm

structure Function where
  type : FuncType
  /-- What the locals behind the parameters start out with. -/
  locals : List Val
  /-- The code; an imported function has none. -/
  code : Option (List Code)
  deriving Inhabited

/-- The functions of a module, and its types, which indirect calls name. -/
structure Program where
  types : Array (Option FuncType)
  functions : Array Function

/-- A block that is being run. -/
structure Label where
  /-- How many operands a branch carries. -/
  arity : Nat
  /-- The code that a branch goes to. -/
  target : List Code
  /-- The code behind the block. -/
  rest : List Code
  /-- The operands below the block. -/
  below : List Val

/-- A function that is being run. -/
structure Frame where
  locals : Array Val
  labels : List Label
  stack : List Val
  code : List Code
  /-- How many results the function gives. -/
  results : Nat

structure State where
  store : Store
  frame : Frame
  callers : List Frame
  depth : Nat

/-- The outcome of a call. Results come last one first. -/
inductive Outcome where
  | returned (store : Store) (results : List Val)
  | trapped (store : Store) (cause : Trap)

inductive Step where
  | running (s : State)
  | ended (o : Outcome)

/-- The deepest nesting of calls. -/
def maxDepth : Nat := 16384

namespace Step

def trap (store : Store) (t : Trap) : Step := .ended (.trapped store t)

/-! ## Leaving -/

/-- Goes back to the caller with the results on top of a stack. -/
def leave (store : Store) (results : List Val) (callers : List Frame) (depth : Nat) : Step :=
  match callers with
  | [] => .ended (.returned store results)
  | ⟨locals, labels, stack, code, arity⟩ :: callers =>
    .running ⟨store, ⟨locals, labels, results ++ stack, code, arity⟩, callers, depth - 1⟩

/-- Branches out of `label` blocks and to the one around them. Past the outermost block lies the end
of the function. -/
def branch (store : Store) (f : Frame) (label : Nat) (callers : List Frame) (depth : Nat) : Step :=
  match f.labels.drop label with
  | l :: labels =>
    .running
      ⟨store, { f with labels, stack := f.stack.take l.arity ++ l.below, code := l.target }, callers,
        depth⟩
  | [] => leave store (f.stack.take f.results) callers depth

/-! ## Entering -/

/-- Enters a block over its parameters. -/
def enter (store : Store) (f : Frame) (params : Nat) (body : List Code) (label : List Val → Label)
    (callers : List Frame) (depth : Nat) : Step :=
  let (args, below) := f.stack.splitAt params
  .running
    ⟨store, { f with labels := label below :: f.labels, stack := args, code := body }, callers, depth⟩

/-- Calls a function with arguments from the stack. -/
def call (p : Program) (store : Store) (f : Frame) (func : Nat) (callers : List Frame) (depth : Nat) :
    Step :=
  match p.functions[func]? with
  | none => trap store .illTyped
  | some g =>
    match g.code with
    | none => trap store .illTyped
    | some body =>
      if maxDepth ≤ depth then trap store .stackExhausted
      else
        let (args, below) := f.stack.splitAt g.type.params.length
        .running
          ⟨store, ⟨(args.reverse ++ g.locals).toArray, [], [], body, g.type.results.length⟩,
            { f with stack := below } :: callers, depth + 1⟩

/-- Calls the function that a table holds at an index, which must have the expected type. -/
def callIndirect (p : Program) (store : Store) (f : Frame) (type table index : Nat)
    (callers : List Frame) (depth : Nat) : Step :=
  match store.tables[table]?, p.types[type]? with
  | some t, some expected =>
    if t.inBounds index 1 then
      match t.entry index with
      | none => trap store .uninitializedElement
      | some func =>
        if (p.functions[func]?).map Function.type = expected then
          call p store f func callers depth
        else trap store .signatureMismatch
    else trap store .tableOutOfBounds
  | _, _ => trap store .illTyped

/-! ## Single operators -/

/-- Runs an operator that neither branches nor calls; `f` is the frame behind it. -/
def simple (store : Store) (f : Frame) (op : Operator) (callers : List Frame) (depth : Nat) : Step :=
  let ⟨locals, labels, stack, code, results⟩ := f
  match op, stack with
  | .nop, stack => .running ⟨store, ⟨locals, labels, stack, code, results⟩, callers, depth⟩
  | .drop, _ :: stack => .running ⟨store, ⟨locals, labels, stack, code, results⟩, callers, depth⟩
  | .localGet i, stack =>
    match locals[i]? with
    | some v => .running ⟨store, ⟨locals, labels, v :: stack, code, results⟩, callers, depth⟩
    | none => trap store .illTyped
  | .localSet i, v :: stack =>
    .running ⟨store, ⟨locals.modify i fun _ => v, labels, stack, code, results⟩, callers, depth⟩
  | .localTee i, v :: stack =>
    .running ⟨store, ⟨locals.modify i fun _ => v, labels, v :: stack, code, results⟩, callers, depth⟩
  | .const c, stack =>
    .running ⟨store, ⟨locals, labels, Val.ofConst c :: stack, code, results⟩, callers, depth⟩
  | .refNull _, stack =>
    .running ⟨store, ⟨locals, labels, .ref none :: stack, code, results⟩, callers, depth⟩
  | .refFunc func, stack =>
    .running ⟨store, ⟨locals, labels, .ref (some func) :: stack, code, results⟩, callers, depth⟩
  | .refIsNull, .ref target :: stack =>
    .running ⟨store, ⟨locals, labels, .ofBool target.isNone :: stack, code, results⟩, callers, depth⟩
  | .select, .i32 c :: b :: a :: stack | .selectTyped _, .i32 c :: b :: a :: stack =>
    .running
      ⟨store, ⟨locals, labels, (if c = 0 then b else a) :: stack, code, results⟩, callers, depth⟩
  | .numeric op, stack =>
    match op.eval stack with
    | .ok stack => .running ⟨store, ⟨locals, labels, stack, code, results⟩, callers, depth⟩
    | .error t => trap store t
  | .vector op, stack =>
    match op.eval stack with
    | .ok stack => .running ⟨store, ⟨locals, labels, stack, code, results⟩, callers, depth⟩
    | .error t => trap store t
  | op, stack =>
    match store.run op stack with
    | .done store stack => .running ⟨store, ⟨locals, labels, stack, code, results⟩, callers, depth⟩
    | .trap store t => trap store t

/-- Runs an operator; `f` is the frame behind it. -/
def plain (p : Program) (store : Store) (f : Frame) (op : Operator) (callers : List Frame)
    (depth : Nat) : Step :=
  match op, f.stack with
  | .unreachable, _ => trap store .unreachable
  | .br label, _ => branch store f label callers depth
  | .brIf label, .i32 c :: stack =>
    if c = 0 then .running ⟨store, { f with stack }, callers, depth⟩
    else branch store { f with stack } label callers depth
  | .brTable labels default, .i32 i :: stack =>
    branch store { f with stack } (labels[i.toNat]?.getD default) callers depth
  | .ret, stack => leave store (stack.take f.results) callers depth
  | .call func, _ => call p store f func callers depth
  | .callIndirect type table, index :: stack =>
    match index.index? with
    | some index => callIndirect p store { f with stack } type table index callers depth
    | none => trap store .illTyped
  | op, _ => simple store f op callers depth

end Step

/-- The state after the next piece of code. -/
def step (p : Program) (s : State) : Step :=
  let ⟨store, ⟨locals, labels, stack, code, results⟩, callers, depth⟩ := s
  match code with
  | [] =>
    match labels with
    | l :: labels =>
      .running ⟨store, ⟨locals, labels, stack ++ l.below, l.rest, results⟩, callers, depth⟩
    | [] => Step.leave store stack callers depth
  | .plain op :: rest => Step.plain p store ⟨locals, labels, stack, rest, results⟩ op callers depth
  | .block params arity body :: rest =>
    Step.enter store ⟨locals, labels, stack, rest, results⟩ params body (⟨arity, rest, rest, ·⟩)
      callers depth
  | .loop params body :: rest =>
    Step.enter store ⟨locals, labels, stack, rest, results⟩ params body
      (⟨params, .loop params body :: rest, rest, ·⟩) callers depth
  | .branch params arity yes no :: rest =>
    match stack with
    | .i32 c :: stack =>
      Step.enter store ⟨locals, labels, stack, rest, results⟩ params (if c = 0 then no else yes)
        (⟨arity, rest, rest, ·⟩) callers depth
    | _ => Step.trap store .illTyped

/-! ## Whole runs -/

/-- Takes at most `steps` steps. -/
def advance (p : Program) : (steps : Nat) → State → Step
  | 0, s => .running s
  | steps + 1, s =>
    match step p s with
    | .running s => advance p steps s
    | .ended o => .ended o

/-- After some steps from a state comes one that ends the call. -/
inductive State.Ends (p : Program) : State → Outcome → Prop where
  | now {s : State} {o : Outcome} (last : step p s = .ended o) : Ends p s o
  | later {s s' : State} {o : Outcome} (first : step p s = .running s') (rest : Ends p s' o) : Ends p s o

section

variable {p : Program} {s s' : State} {o o' : Outcome}

theorem State.Ends.of_running (first : step p s = .running s') : s.Ends p o ↔ s'.Ends p o := by
  refine ⟨fun ends => ?_, .later first⟩
  cases ends with
  | now last =>
    rw [first] at last
    cases last
  | later first' rest =>
    rw [first] at first'
    cases first'
    exact rest

theorem State.Ends.of_ended (last : step p s = .ended o) : s.Ends p o' ↔ o = o' := by
  refine ⟨fun ends => ?_, fun same => .now (same ▸ last)⟩
  cases ends with
  | now last' =>
    rw [last] at last'
    cases last'
    rfl
  | later first _ =>
    rw [last] at first
    cases first

theorem State.Ends.unique (ends : s.Ends p o) (ends' : s.Ends p o') : o = o' := by
  induction ends with
  | now last => exact (Ends.of_ended last).1 ends'
  | later first _ ih => exact ih ((Ends.of_running first).1 ends')

end

/-- What a state comes to: the outcome that its steps end with, or nothing where they go on for ever. -/
structure State.Result (p : Program) (s : State) where
  outcome : Option Outcome
  exact : ∀ o, outcome = some o ↔ s.Ends p o

instance (p : Program) (s : State) : Nonempty (s.Result p) := by
  rcases Classical.em (∃ o, s.Ends p o) with ⟨o, ends⟩ | endless
  · exact ⟨some o, fun o' => ⟨fun | rfl => ends, fun ends' => congrArg some (ends.unique ends')⟩⟩
  · exact ⟨none, fun o => ⟨nofun, fun ends => absurd ⟨o, ends⟩ endless⟩⟩

/-- Takes one step after another until one ends the call. The steps may go on for ever, so that nothing gets
less from one to the next; that they come to this result is in its type. -/
def runOn (p : Program) : (s : State) → s.Result p :=
  WellFounded.extrinsicFix (fun s' s => step p s = .running s') fun s runNext =>
    match moved : step p s with
    | .running s' =>
      let r := runNext s' moved
      ⟨r.outcome, fun o => (r.exact o).trans (State.Ends.of_running moved).symm⟩
    | .ended o => ⟨some o, fun _ => Option.some_inj.trans (State.Ends.of_ended moved).symm⟩

/-- How many steps of a call are counted. -/
def burst : Nat := 1024

/-- The outcome of running a state to the end; `none` if it has none. The first steps are counted, so that
short runs can be evaluated anywhere; this makes no difference to the outcome. -/
def run (p : Program) (s : State) : Option Outcome :=
  match advance p burst s with
  | .running s => (runOn p s).outcome
  | .ended o => some o

/-- The state in which a function of a program starts. The arguments must have the types of its
parameters. -/
def firstState? (p : Program) (store : Store) (func : Nat) (args : List Val) : Option State := do
  let g ← p.functions[func]?
  let body ← g.code
  if args.length = g.type.params.length
      && (args.zip g.type.params).all (fun (v, t) => v.hasType t) then
    some ⟨store, ⟨(args ++ g.locals).toArray, [], [], body, g.type.results.length⟩, [], 1⟩
  else none

/-- Calls a function of a program. A call that never ends has no outcome. -/
def call (p : Program) (store : Store) (func : Nat) (args : List Val) : Option Outcome :=
  match firstState? p store func args with
  | some s => run p s
  | none => some (.trapped store .illTyped)

end WasmLens.Machine
