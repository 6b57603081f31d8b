import WasmLens.Wasm.Operator

/-!
# The contents of sections

What each kind of section holds once its bytes are read.
-/
namespace WasmLens.Wasm

inductive ImportDesc where
  | func (type : Nat)
  | table (t : TableType)
  | memory (t : MemoryType)
  | global (t : GlobalType)
  | tag (type : Nat)
  deriving Repr, DecidableEq

structure Import where
  module : String
  name : String
  desc : ImportDesc
  deriving Repr, DecidableEq

inductive ExportKind where
  | func
  | table
  | memory
  | global
  | tag
  deriving Repr, DecidableEq

structure Export where
  name : String
  kind : ExportKind
  index : Nat
  deriving Repr, DecidableEq

/-- An expression that initializes something, without the operator that closes it. -/
abbrev ConstExpr := List Operator

structure Table where
  type : TableType
  /-- What fills the table; null if nothing is given. -/
  init : Option ConstExpr
  deriving Repr, DecidableEq

structure Global where
  type : GlobalType
  init : ConstExpr
  deriving Repr, DecidableEq

/-- When a segment is used: at once, on demand, or, for elements, only to declare functions. -/
inductive SegmentMode where
  | active (index : Nat) (offset : ConstExpr)
  | passive
  | declared
  deriving Repr, DecidableEq

inductive ElementItems where
  | functions (indices : List Nat)
  | expressions (type : RefType) (items : List ConstExpr)
  deriving Repr, DecidableEq

structure Element where
  mode : SegmentMode
  items : ElementItems
  deriving Repr, DecidableEq

structure DataSegment where
  mode : SegmentMode
  bytes : List UInt8
  deriving Repr, DecidableEq

/-- Some locals of one type. -/
structure LocalGroup where
  count : Nat
  type : ValType
  deriving Repr, DecidableEq

/-- The body of a function: its bytes, and what they say. -/
structure Body where
  bytes : List UInt8
  locals : List LocalGroup
  operators : List Operator
  deriving Repr, DecidableEq

inductive Content where
  | custom (name : String) (bytes : List UInt8)
  | types (groups : List RecGroup)
  | imports (items : List Import)
  | functions (types : List Nat)
  | tables (items : List Table)
  | memories (items : List MemoryType)
  | tags (types : List Nat)
  | globals (items : List Global)
  | exports (items : List Export)
  | start (func : Nat)
  | elements (items : List Element)
  | dataCount (count : Nat)
  | code (bodies : List Body)
  | data (segments : List DataSegment)
  deriving Repr, DecidableEq

/-- The exports that the contents of a section hold. -/
def Content.exportItems : Content → List Export
  | .exports items => items
  | _ => []

end WasmLens.Wasm
