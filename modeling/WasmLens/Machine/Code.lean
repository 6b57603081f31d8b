import WasmLens.Wasm.Operator

/-!
# Structured code

A function body as a tree, in which a block holds the code between its opening and its closing
operator. `Code.assemble` builds it from the flat sequence of the binary.
-/
namespace WasmLens.Machine

open Wasm

inductive Code where
  | plain (op : Operator)
  | block (params results : Nat) (body : List Code)
  | loop (params : Nat) (body : List Code)
  | branch (params results : Nat) (yes no : List Code)
  deriving Repr, Inhabited

/-- How many operands a block takes and leaves. -/
structure Arity where
  params : Nat
  results : Nat
  deriving Repr, DecidableEq

def Arity.ofType (t : FuncType) : Arity := ⟨t.params.length, t.results.length⟩

/-- A block that has been opened and not closed. -/
inductive Opening where
  | block
  | loop
  | ifThen
  /-- The code of the first branch is complete. -/
  | otherwise (yes : List Code)

/-- An open block, and the code before it, last first. -/
structure Scope where
  opening : Opening
  arity : Arity
  before : List Code

/-- A closed block. -/
def Scope.close (s : Scope) (body : List Code) : Code :=
  match s.opening with
  | .block => .block s.arity.params s.arity.results body
  | .loop => .loop s.arity.params body
  | .ifThen => .branch s.arity.params s.arity.results body []
  | .otherwise yes => .branch s.arity.params s.arity.results yes body

namespace Code

/-- Assembles operators behind the code that is `done`, last first, inside the open `scopes`; `none`
if blocks do not match, or if there is an operator that is never run. -/
def assembleFrom (arityOf : BlockType → Option Arity) :
    List Operator → (done : List Code) → (scopes : List Scope) → Option (List Code)
  | [], _, _ => none
  | [.close], done, [] => some done.reverse
  | op :: ops, done, scopes =>
    match op with
    | .block t => (arityOf t).bind fun a => assembleFrom arityOf ops [] (⟨.block, a, done⟩ :: scopes)
    | .loop t => (arityOf t).bind fun a => assembleFrom arityOf ops [] (⟨.loop, a, done⟩ :: scopes)
    | .ifThen t => (arityOf t).bind fun a => assembleFrom arityOf ops [] (⟨.ifThen, a, done⟩ :: scopes)
    | .otherwise =>
      match scopes with
      | ⟨.ifThen, a, before⟩ :: outer =>
        assembleFrom arityOf ops [] (⟨.otherwise done.reverse, a, before⟩ :: outer)
      | _ => none
    | .close =>
      match scopes with
      | s :: outer => assembleFrom arityOf ops (s.close done.reverse :: s.before) outer
      | [] => none
    | .proposed _ => none
    | op => assembleFrom arityOf ops (.plain op :: done) scopes

/-- The code of a whole body, whose last operator closes it. -/
def assemble (arityOf : BlockType → Option Arity) (ops : List Operator) : Option (List Code) :=
  assembleFrom arityOf ops [] []

end Code

end WasmLens.Machine
