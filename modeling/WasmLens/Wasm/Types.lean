import WasmLens.Number.Power

/-!
# Types of the binary format

Value, function, table, memory and global types as a module declares them, before any of it is
reflected to a host.
-/
namespace WasmLens.Wasm

/-- Heap types that are not given by an index. -/
inductive AbstractHeap where
  | func
  | external
  | any
  | eq
  | i31
  | struct
  | array
  | exception
  | noFunc
  | noExternal
  | bottom
  | noException
  deriving Repr, DecidableEq, Inhabited

inductive HeapType where
  | abstract (a : AbstractHeap)
  /-- A type of the module, by its index. -/
  | concrete (index : Nat)
  deriving Repr, DecidableEq, Inhabited

structure RefType where
  nullable : Bool
  heap : HeapType
  deriving Repr, DecidableEq, Inhabited

namespace RefType

def func : RefType := ⟨true, .abstract .func⟩

/-- References to functions that are not null. -/
def funcNotNull : RefType := ⟨false, .abstract .func⟩

def external : RefType := ⟨true, .abstract .external⟩

end RefType

inductive ValType where
  | i32
  | i64
  | f32
  | f64
  | v128
  | ref (t : RefType)
  deriving Repr, DecidableEq, Inhabited

/-! ## Texts -/

namespace AbstractHeap

/-- The name inside a reference type in parentheses. -/
def name : AbstractHeap → String
  | .func => "func"
  | .external => "extern"
  | .any => "any"
  | .eq => "eq"
  | .i31 => "i31"
  | .struct => "struct"
  | .array => "array"
  | .exception => "exn"
  | .noFunc => "nofunc"
  | .noExternal => "noextern"
  | .bottom => "none"
  | .noException => "noexn"

/-- The short name of the nullable reference type. -/
def shorthand : AbstractHeap → String
  | .func => "funcref"
  | .external => "externref"
  | .any => "anyref"
  | .eq => "eqref"
  | .i31 => "i31ref"
  | .struct => "structref"
  | .array => "arrayref"
  | .exception => "exnref"
  | .noFunc => "nullfuncref"
  | .noExternal => "nullexternref"
  | .bottom => "nullref"
  | .noException => "nullexnref"

end AbstractHeap

def RefType.text : RefType → String
  | ⟨true, .abstract a⟩ => a.shorthand
  | ⟨false, .abstract a⟩ => "(ref " ++ a.name ++ ")"
  | ⟨true, .concrete i⟩ => "(ref null (module " ++ toString i ++ "))"
  | ⟨false, .concrete i⟩ => "(ref (module " ++ toString i ++ "))"

def ValType.text : ValType → String
  | .i32 => "i32"
  | .i64 => "i64"
  | .f32 => "f32"
  | .f64 => "f64"
  | .v128 => "v128"
  | .ref t => t.text

/-! ## Defined types -/

structure FuncType where
  params : List ValType
  results : List ValType
  deriving Repr, DecidableEq, Inhabited

/-- What a field of a structure or an array holds: a value, or an integer packed into one or two
bytes. -/
inductive StorageType where
  | i8
  | i16
  | value (t : ValType)
  deriving Repr, DecidableEq, Inhabited

structure FieldType where
  storage : StorageType
  isMutable : Bool
  deriving Repr, DecidableEq, Inhabited

inductive CompositeType where
  | func (t : FuncType)
  | struct (fields : List FieldType)
  | array (field : FieldType)
  deriving Repr, DecidableEq, Inhabited

/-- A type definition with its place in the subtype hierarchy. -/
structure SubType where
  isFinal : Bool
  supertype : Option Nat
  composite : CompositeType
  deriving Repr, DecidableEq, Inhabited

/-- Types that are defined together and may refer to each other. -/
structure RecGroup where
  /-- Whether the group is written as one, rather than being a single type. -/
  isExplicit : Bool
  types : List SubType
  deriving Repr, DecidableEq

def SubType.funcType? (t : SubType) : Option FuncType :=
  match t.composite with
  | .func f => some f
  | _ => none

/-! ## Types of the other entities -/

structure Limits where
  minimum : Nat
  maximum : Option Nat
  deriving Repr, DecidableEq, Inhabited

structure TableType where
  element : RefType
  limits : Limits
  is64 : Bool
  isShared : Bool
  deriving Repr, DecidableEq, Inhabited

/-- A memory type; its limits count pages. -/
structure MemoryType where
  limits : Limits
  is64 : Bool
  isShared : Bool
  /-- The page size as a power of two, where the module gives one. -/
  pageSizeLog2 : Option Nat
  deriving Repr, DecidableEq, Inhabited

structure GlobalType where
  content : ValType
  isMutable : Bool
  isShared : Bool
  deriving Repr, DecidableEq, Inhabited

/-- The type of an address or an index into a table or a memory. -/
def indexType (is64 : Bool) : ValType := if is64 then .i64 else .i32

end WasmLens.Wasm
