import WasmLens.Wasm.Validate.Proposed

/-!
# Bodies and constant expressions

A body is checked operator by operator inside a block of its own, and so is a constant expression, which only a few
operators may stand in.
-/
namespace WasmLens.Wasm

namespace Check

/-- Checks one operator. Behind the end of a body there is none. -/
def operator (op : Operator) : Check Unit := do
  if (← get).blocks.isEmpty then fail (.trailing "function body")
  match op with
  | .block t | .loop t | .ifThen t => blockType t
  | _ => pure ()
  match onVariables? op <|> onTables? op <|> onMemories? op <|> onVectors? op <|> onValues? op with
  | some check => check
  | none =>
    match op with
    | .proposed op => proposed op
    | op => control op

/-- Whether all blocks, the body included, have been closed. -/
def finished : Check Unit := do
  if !(← get).blocks.isEmpty then fail .unexpectedEnd

end Check

def maxLocals : Nat := 50000

/-- The types of the locals behind the parameters, unless there are too many of all together. -/
def expandLocals (c : Context) (taken : Nat) : List LocalGroup → Except Fault (List ValType)
  | [] => .ok []
  | g :: groups => do
    atMost maxLocals (taken + g.count) "local"
    c.checkValue g.type
    let later ← expandLocals c (taken + g.count) groups
    return List.replicate g.count g.type ++ later

namespace Context

/-- Checks a function body against its type. -/
def checkBody (c : Context) (type : FuncType) (body : Body) : Except Fault Unit := do
  let declared ← expandLocals c type.params.length body.locals
  let locals := type.params ++ declared
  let unset := (locals.zipIdx.drop type.params.length).filterMap fun (t, i) =>
    if t.isDefaultable then none else some i
  let start : Checker := { context := c, locals := locals.toArray, unset := unset }
  let check : Check Unit := do
    Check.openBlock .body ⟨[], type.results⟩
    body.operators.forM Check.operator
    Check.finished
  let _ ← check start

/-- Whether an operator may stand in a constant expression. A global must be imported, unless types
are garbage-collected, and it must be immutable. -/
def checkConstant (c : Context) : Operator → Except Fault Unit
  | .const _ | .refNull _ | .refFunc _ => .ok ()
  | .numeric (.intBinary _ .add) | .numeric (.intBinary _ .sub) | .numeric (.intBinary _ .mul) =>
    if c.features.extendedConst then .ok () else .error .notConstant
  | .proposed op => if op.isConstant && c.features.gc then .ok () else .error .notConstant
  | .globalGet i => do
    let g ← c.globalAt i
    if (c.importedGlobals ≤ i && !c.features.gc) || g.isMutable then throw .notConstant
  | _ => .error .notConstant

/-- The functions that an expression takes references to. -/
def referencesOf (e : ConstExpr) : List Nat :=
  e.filterMap fun | .refFunc f => some f | _ => none

/-- Notes functions that may be referred to from now on. -/
def refer (c : Context) (funcs : List Nat) : Context := { c with referable := c.referable ++ funcs }

/-- Checks that an expression is constant and gives one value of a type. It declares the functions
it refers to. -/
def checkConstExpr (c : Context) (type : ValType) (e : ConstExpr) : Except Fault Context := do
  e.forM c.checkConstant
  let declared := c.refer (referencesOf e)
  let start : Checker := { context := declared, locals := #[] }
  let check : Check Unit := do
    Check.openBlock .body ⟨[], [type]⟩
    e.forM Check.operator
    Check.operator .close
    Check.finished
  let _ ← check start
  return declared

end Context

end WasmLens.Wasm
