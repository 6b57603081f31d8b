import WasmLens.Wasm.Validate.Subtype

/-!
# The type stack

Bodies are checked operator by operator against a stack of types. Every block has an operand stack
of its own and keeps that of the block around it, so a block can never reach below its start.
-/
namespace WasmLens.Wasm

/-- What is known of an operand; it need not be its type where code cannot be reached. -/
inductive Operand where
  | unknown
  /-- A reference that is not null, below an abstract heap type if that is known. -/
  | someRef (below : Option AbstractHeap)
  | known (t : ValType)
  deriving Repr, DecidableEq

/-- Whether an operand may stand where a type is expected. -/
def Context.operandBelow (c : Context) (o : Operand) (expected : ValType) : Bool :=
  match o, expected with
  | .unknown, _ | .someRef none, .ref _ => true
  | .someRef (some heap), .ref t => c.refBelow ⟨false, .abstract heap⟩ t
  | .someRef _, _ => false
  | .known t, expected => c.isSubtype t expected

inductive BlockKind where
  | body
  | block
  | loop
  | ifThen
  | otherwise
  deriving Repr, DecidableEq

/-- A block that is open. -/
structure OpenBlock where
  kind : BlockKind
  type : FuncType
  /-- The operands of the block around it, below its parameters. -/
  outer : List Operand
  /-- Whether the end of the block around it could be reached when this one was opened. -/
  outerUnreachable : Bool
  /-- The locals that had no value when it was opened. -/
  outerUnset : List Nat
  deriving Repr

/-- What a branch to the block carries. -/
def OpenBlock.labelTypes (b : OpenBlock) : List ValType :=
  if b.kind = .loop then b.type.params else b.type.results

structure Checker where
  context : Context
  locals : Array ValType
  operands : List Operand := []
  unreachable : Bool := false
  /-- Locals that cannot be read because they have no value yet. -/
  unset : List Nat := []
  blocks : List OpenBlock := []

/-- A step of checking. -/
abbrev Check := StateT Checker (Except Fault)

namespace Check

def fail {α : Type} (f : Fault) : Check α := throw f

def push (t : Operand) : Check Unit :=
  modify fun k => { k with operands := t :: k.operands }

def pushAll (ts : List ValType) : Check Unit :=
  modify fun k => { k with operands := (ts.map .known).reverse ++ k.operands }

/-- Takes an operand of any type. -/
def popAny : Check Operand := do
  let k ← get
  match k.operands with
  | t :: rest =>
    set { k with operands := rest }
    return t
  | [] => if k.unreachable then return .unknown else fail .typeMismatch

/-- Takes an operand that may stand where `expected` is. -/
def pop (expected : ValType) : Check Unit := do
  let o ← popAny
  if (← get).context.operandBelow o expected then return else fail .typeMismatch

/-- Takes operands, the last one first. -/
def popAll (ts : List ValType) : Check Unit := ts.reverse.forM pop

/-- What follows in this block cannot be reached, whatever operands it seems to have. -/
def setUnreachable : Check Unit :=
  modify fun k => { k with operands := [], unreachable := true }

/-- Opens a block over its parameters, which have been taken off the stack. -/
def openBlock (kind : BlockKind) (type : FuncType) : Check Unit := do
  modify fun k =>
    { k with
      operands := []
      unreachable := false
      blocks := ⟨kind, type, k.operands, k.unreachable, k.unset⟩ :: k.blocks }
  pushAll type.params

/-- Closes the innermost block: its results lie on its stack and nothing else does. -/
def closeBlock : Check OpenBlock := do
  match (← get).blocks with
  | [] => fail .typeMismatch
  | b :: rest =>
    popAll b.type.results
    if !(← get).operands.isEmpty then fail .typeMismatch
    modify fun k =>
      { k with
        operands := b.outer
        unreachable := b.outerUnreachable
        unset := b.outerUnset
        blocks := rest }
    return b

/-- The types that a branch to a label carries. -/
def label (index : Nat) : Check (List ValType) := do
  match (← get).blocks[index]? with
  | some b => return b.labelTypes
  | none => fail (.unknown "label" index)

end Check

end WasmLens.Wasm
