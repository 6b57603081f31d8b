import WasmLens.Features
import WasmLens.Wasm.Immediate

/-!
# Operators of further proposals

What validation knows of tail calls, typed function references, exceptions, garbage-collected types, shared memories
and the vector operators whose results depend on the processor. No configuration turns any of these proposals on, so
code with such an operator can be told valid and is never run.
-/
namespace WasmLens.Wasm

/-- What a block does with an exception that reaches it. -/
inductive Catch where
  /-- Goes to a label with the arguments of an exception of this tag, and with the exception if asked to. -/
  | one (tag label : Nat) (withRef : Bool)
  /-- Goes to a label whatever the exception is. -/
  | all (label : Nat) (withRef : Bool)
  deriving Repr, DecidableEq

/-- What an operator does to a memory that others may use at the same time. -/
inductive AtomicOp where
  | notify
  | wait
  | load
  | store
  /-- Replaces the number there by one made of it and an operand, and gives the former one. -/
  | modify
  /-- Replaces the number there if it is the first operand. -/
  | compareExchange
  deriving Repr, DecidableEq

namespace AtomicOp

/-- The operators on each of the accesses, in the order of their opcodes: six of them modify. -/
def families : List AtomicOp := [load, store, modify, modify, modify, modify, modify, modify, compareExchange]

end AtomicOp

/-- The accesses of atomic operators, in the order of their opcodes. -/
def Access.atomics : List Access :=
  [⟨.i32, 4, false⟩, ⟨.i64, 8, false⟩, ⟨.i32, 1, false⟩, ⟨.i32, 2, false⟩, ⟨.i64, 1, false⟩, ⟨.i64, 2, false⟩,
    ⟨.i64, 4, false⟩]

inductive Proposed where
  | returnCall (func : Nat)
  | returnCallIndirect (type table : Nat)
  | callRef (type : Nat)
  | returnCallRef (type : Nat)
  | refAsNonNull
  | brOnNull (label : Nat)
  | brOnNonNull (label : Nat)
  | throw (tag : Nat)
  | throwRef
  | tryTable (t : BlockType) (catches : List Catch)
  | refEq
  | structNew (type : Nat)
  | structNewDefault (type : Nat)
  /-- A packed field is read with or without its sign. -/
  | structGet (extension : Option Bool) (type field : Nat)
  | structSet (type field : Nat)
  | arrayNew (type : Nat)
  | arrayNewDefault (type : Nat)
  | arrayNewFixed (type size : Nat)
  | arrayNewData (type segment : Nat)
  | arrayNewElem (type segment : Nat)
  | arrayGet (extension : Option Bool) (type : Nat)
  | arraySet (type : Nat)
  | arrayLen
  | arrayFill (type : Nat)
  | arrayCopy (target source : Nat)
  | arrayInitData (type segment : Nat)
  | arrayInitElem (type segment : Nat)
  | refTest (target : RefType)
  | refCast (target : RefType)
  | brOnCast (label : Nat) (source target : RefType)
  | brOnCastFail (label : Nat) (source target : RefType)
  | anyConvertExtern
  | externConvertAny
  | refI31
  | i31Get (signed : Bool)
  | atomic (op : AtomicOp) (access : Access) (arg : MemArg)
  | atomicFence
  /-- A vector operator that takes so many vectors. -/
  | relaxedVector (params : Nat)
  deriving Repr, DecidableEq

namespace Proposed

/-- How many vectors the relaxed vector operators take, in the order of their opcodes. -/
def relaxedParams : List Nat := [2, 1, 1, 1, 1, 3, 3, 3, 3, 3, 3, 3, 3, 2, 2, 2, 2, 2, 2, 3]

/-- Whether the proposal that an operator belongs to is enabled. -/
def isEnabled (f : Features) : Proposed → Bool
  | .returnCall _ | .returnCallIndirect .. => f.tailCalls
  | .throw _ | .throwRef | .tryTable .. => f.exceptions
  | .atomic .. | .atomicFence => f.threads
  | .relaxedVector _ => f.relaxedSimd
  | _ => f.gc

/-- The proposal that an operator belongs to. -/
def proposal : Proposed → String
  | .returnCall _ | .returnCallIndirect .. => "tail calls"
  | .callRef _ | .returnCallRef _ | .refAsNonNull | .brOnNull _ | .brOnNonNull _ => "function references"
  | .throw _ | .throwRef | .tryTable .. => "exceptions"
  | .atomic .. | .atomicFence => "threads"
  | .relaxedVector _ => "relaxed SIMD"
  | _ => "gc"

/-- Whether an operator may stand in a constant expression. -/
def isConstant : Proposed → Bool
  | .structNew _ | .structNewDefault _ | .arrayNew _ | .arrayNewDefault _ | .arrayNewFixed .. | .refI31
  | .anyConvertExtern | .externConvertAny => true
  | _ => false

end Proposed

end WasmLens.Wasm
