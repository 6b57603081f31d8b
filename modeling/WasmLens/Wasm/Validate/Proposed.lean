import WasmLens.Wasm.Validate.Operator

/-!
# Typing of operators of further proposals

For most of these operators the immediates say what they take and what they leave (`Context.signatureOf`). The others
branch, leave the function, or leave a reference that depends on the one they take.
-/
namespace WasmLens.Wasm

/-! ## Types of fields -/

namespace StorageType

def isPacked : StorageType → Bool
  | .value _ => false
  | _ => true

/-- The type of what is read from a field. -/
def unpacked : StorageType → ValType
  | .value t => t
  | _ => .i32

end StorageType

/-- The abstract heap type at the top of the hierarchy of another one. -/
def AbstractHeap.top : AbstractHeap → AbstractHeap
  | .func | .noFunc => .func
  | .external | .noExternal => .external
  | .exception | .noException => .exception
  | _ => .any

namespace Context

variable (c : Context)

def heapTop : HeapType → AbstractHeap
  | .abstract a => a.top
  | .concrete index => (c.kindOf index).top

/-- A type that is given by an index must be there. -/
def checkHeap : HeapType → Except Fault Unit
  | .abstract _ => .ok ()
  | .concrete index => do let _ ← lookUp c.types "type" index

def structAt (index : Nat) : Except Fault (List FieldType) := do
  match (← lookUp c.types "type" index).composite with
  | .struct fields => return fields
  | _ => throw .typeMismatch

def fieldAt (index field : Nat) : Except Fault FieldType := do
  match (← c.structAt index)[field]? with
  | some t => return t
  | none => throw (.unknown "field" field)

def arrayAt (index : Nat) : Except Fault FieldType := do
  match (← lookUp c.types "type" index).composite with
  | .array t => return t
  | _ => throw .typeMismatch

/-- The parameters of exceptions with a tag. -/
def tagAt (index : Nat) : Except Fault (List ValType) := do
  return (← c.funcTypeAt (← lookUp c.tags "tag" index)).params

/-! ## Operators with a type of their own -/

def needMutable (t : FieldType) : Except Fault Unit := if t.isMutable then .ok () else .error .immutable

/-- Only packed fields are read with an extension, and they are read with no other. -/
def needExtension (t : FieldType) (extension : Option Bool) : Except Fault Unit :=
  if t.storage.isPacked = extension.isSome then .ok () else .error .typeMismatch

def needDefault (t : FieldType) : Except Fault Unit :=
  if t.storage.unpacked.isDefaultable then .ok () else .error .typeMismatch

/-- Elements that bytes of a data segment are read as are no references. -/
def needData (t : FieldType) (segment : Nat) : Except Fault Unit :=
  match t.storage.unpacked with
  | .ref _ => .error .typeMismatch
  | _ => c.checkDataSegment segment

/-- Elements that references of an element segment are read as are of a type above them. -/
def needElements (t : FieldType) (segment : Nat) : Except Fault Unit := do
  match t.storage.unpacked with
  | .ref above => if c.refBelow (← c.elementAt segment) above then return else throw .typeMismatch
  | _ => throw .typeMismatch

/-- A reference to a type by its index, as it is taken. -/
def taken (index : Nat) : ValType := .ref ⟨true, .concrete index⟩

/-- A reference to a type by its index, as it is made. -/
def made (index : Nat) : ValType := .ref ⟨false, .concrete index⟩

def atomicType (address : ValType) (access : Access) : AtomicOp → FuncType
  | .notify => ⟨[address, .i32], [.i32]⟩
  | .wait => ⟨[address, access.type, .i64], [.i32]⟩
  | .load => ⟨[address], [access.type]⟩
  | .store => ⟨[address, access.type], []⟩
  | .modify => ⟨[address, access.type], [access.type]⟩
  | .compareExchange => ⟨[address, access.type, access.type], [access.type]⟩

/-- The address type of an access to a shared memory, which claims its natural alignment. -/
def atomicAddress (bytes : Nat) (arg : MemArg) : Except Fault ValType := do
  let memory ← c.memoryAt arg.memory
  if arg.alignLog2 ≠ naturalAlignLog2 bytes then throw (.outOfRange "alignment")
  return indexType memory.is64

/-- The type of a reference cast down to another one: it is in the same hierarchy. -/
def castFrom (target : RefType) : Except Fault ValType := do
  c.checkHeap target.heap
  return .ref ⟨true, .abstract (c.heapTop target.heap)⟩

/-- What an operator takes and leaves, where its immediates say so. -/
def signatureOf : Proposed → Except Fault FuncType
  | .callRef type => do
    let t ← c.funcTypeAt type
    return ⟨t.params ++ [taken type], t.results⟩
  | .refEq => return ⟨[.ref ⟨true, .abstract .eq⟩, .ref ⟨true, .abstract .eq⟩], [.i32]⟩
  | .structNew type => return ⟨(← c.structAt type).map (·.storage.unpacked), [made type]⟩
  | .structNewDefault type => do
    (← c.structAt type).forM needDefault
    return ⟨[], [made type]⟩
  | .structGet extension type field => do
    let t ← c.fieldAt type field
    needExtension t extension
    return ⟨[taken type], [t.storage.unpacked]⟩
  | .structSet type field => do
    let t ← c.fieldAt type field
    needMutable t
    return ⟨[taken type, t.storage.unpacked], []⟩
  | .arrayNew type => return ⟨[(← c.arrayAt type).storage.unpacked, .i32], [made type]⟩
  | .arrayNewDefault type => do
    needDefault (← c.arrayAt type)
    return ⟨[.i32], [made type]⟩
  | .arrayNewData type segment => do
    c.needData (← c.arrayAt type) segment
    return ⟨[.i32, .i32], [made type]⟩
  | .arrayNewElem type segment => do
    c.needElements (← c.arrayAt type) segment
    return ⟨[.i32, .i32], [made type]⟩
  | .arrayGet extension type => do
    let t ← c.arrayAt type
    needExtension t extension
    return ⟨[taken type, .i32], [t.storage.unpacked]⟩
  | .arraySet type => do
    let t ← c.arrayAt type
    needMutable t
    return ⟨[taken type, .i32, t.storage.unpacked], []⟩
  | .arrayLen => return ⟨[.ref ⟨true, .abstract .array⟩], [.i32]⟩
  | .arrayFill type => do
    let t ← c.arrayAt type
    needMutable t
    return ⟨[taken type, .i32, t.storage.unpacked, .i32], []⟩
  | .arrayCopy target source => do
    let t ← c.arrayAt target
    needMutable t
    if !c.storageBelow (← c.arrayAt source).storage t.storage then throw .typeMismatch
    return ⟨[taken target, .i32, taken source, .i32, .i32], []⟩
  | .arrayInitData type segment => do
    let t ← c.arrayAt type
    needMutable t
    c.needData t segment
    return ⟨[taken type, .i32, .i32, .i32], []⟩
  | .arrayInitElem type segment => do
    let t ← c.arrayAt type
    needMutable t
    c.needElements t segment
    return ⟨[taken type, .i32, .i32, .i32], []⟩
  | .refTest target => return ⟨[← c.castFrom target], [.i32]⟩
  | .refCast target => return ⟨[← c.castFrom target], [.ref target]⟩
  | .refI31 => return ⟨[.i32], [.ref ⟨false, .abstract .i31⟩]⟩
  | .i31Get _ => return ⟨[.ref ⟨true, .abstract .i31⟩], [.i32]⟩
  | .atomic op access arg => return atomicType (← c.atomicAddress access.bytes arg) access op
  | .atomicFence => return ⟨[], []⟩
  | .relaxedVector params => return ⟨List.replicate params .v128, [.v128]⟩
  | _ => throw (.malformed "operator")

end Context

namespace Check

/-! ## References -/

/-- A reference that is known not to be null. -/
def notNull : Operand → Operand
  | .known (.ref t) => .known (.ref ⟨false, t.heap⟩)
  | o => o

/-- Takes a reference into one hierarchy and leaves it as one into another. -/
def convert (source target : AbstractHeap) : Check Unit := do
  let o ← popRef
  if !(← get).context.operandBelow o (.ref ⟨true, .abstract source⟩) then fail .typeMismatch
  match o with
  | .known (.ref t) => push (.known (.ref ⟨t.nullable, .abstract target⟩))
  | _ => push (.someRef (some target))

/-- Takes one operand many times. -/
def popRepeated (t : ValType) : (count : Nat) → Check Unit
  | 0 => return
  | count + 1 => do
    pop t
    popRepeated t count

/-! ## Branches -/

/-- The types that a branch to a label carries, the last of which is that of a reference. -/
def labelWithRef (index : Nat) : Check (List ValType × RefType) := do
  let ts ← label index
  match ts.getLast? with
  | some (.ref t) => return (ts.dropLast, t)
  | _ => fail .typeMismatch

/-- A branch that carries a reference of one type unless it leaves it as one of another type. -/
def castBranch (label : Nat) (source carried left : RefType) : Check Unit := do
  let (ts, t) ← labelWithRef label
  if !(← get).context.refBelow carried t then fail .typeMismatch
  pop (.ref source)
  apply ts ts
  push (.known (.ref left))

/-- The references of one type that are not of another one below it. -/
def difference (a b : RefType) : RefType := ⟨a.nullable && !b.nullable, a.heap⟩

/-- A cast goes down from one type that is there to another one. -/
def checkCast (source target : RefType) : Check Unit := do
  lift (·.checkHeap source.heap)
  lift (·.checkHeap target.heap)
  if !(← get).context.refBelow target source then fail .typeMismatch

/-- Whether values of some types may go where values of others are expected. -/
def carries (actual expected : List ValType) : Check Unit := do
  let c := (← get).context
  if actual.length ≠ expected.length || !(actual.zip expected).all (fun (a, b) => c.isSubtype a b) then
    fail .typeMismatch

/-- An exception as a handler gets it. -/
def caught (withRef : Bool) : List ValType := if withRef then [.ref ⟨false, .abstract .exception⟩] else []

def handler : Catch → Check Unit
  | .one tag l withRef => do carries ((← lift (·.tagAt tag)) ++ caught withRef) (← label l)
  | .all l withRef => do carries (caught withRef) (← label l)

/-- The results of the function around it may be those of another one. -/
def returns (results : List ValType) : Check Unit := do
  match (← get).blocks.getLast? with
  | some b => carries results b.type.results
  | none => fail .typeMismatch

/-- Leaves the function for another one. -/
def returnTo (type : FuncType) : Check Unit := do
  returns type.results
  popAll type.params
  setUnreachable

/-! ## All operators -/

def proposed (op : Proposed) : Check Unit := do
  need op.isEnabled op.proposal
  match op with
  | .returnCall func => returnTo (← lift (·.typeOfFunction func))
  | .returnCallIndirect type table =>
    let t ← lift (·.tableAt table)
    if !(← get).context.refBelow t.element RefType.func then fail .typeMismatch
    pop (indexType t.is64)
    returnTo (← lift (·.funcTypeAt type))
  | .returnCallRef type =>
    pop (Context.taken type)
    returnTo (← lift (·.funcTypeAt type))
  | .refAsNonNull => push (notNull (← popRef))
  | .brOnNull l =>
    let o ← popRef
    let ts ← label l
    apply ts ts
    push (notNull o)
  | .brOnNonNull l =>
    let (ts, t) ← labelWithRef l
    pop (.ref ⟨true, t.heap⟩)
    apply ts ts
  | .throw tag =>
    popAll (← lift (·.tagAt tag))
    setUnreachable
  | .throwRef =>
    pop (.ref ⟨true, .abstract .exception⟩)
    setUnreachable
  | .tryTable t handlers =>
    blockType t
    let type ← lift (·.blockTypeAt t)
    popAll type.params
    handlers.forM handler
    openBlock .block type
  | .arrayNewFixed type size =>
    let t ← lift (·.arrayAt type)
    popRepeated t.storage.unpacked size
    push (.known (Context.made type))
  | .brOnCast l source target =>
    checkCast source target
    castBranch l source target (difference source target)
  | .brOnCastFail l source target =>
    checkCast source target
    castBranch l source (difference source target) target
  | .anyConvertExtern => convert .external .any
  | .externConvertAny => convert .any .external
  | op =>
    let t ← lift (·.signatureOf op)
    apply t.params t.results

end Check

end WasmLens.Wasm
