import WasmLens.Wasm.Numeric

/-!
# Vector operators

The operators on vectors of 128 bits, as a few families over what a vector is seen as: lanes of integers of four widths,
or of floats of two. Their opcodes stand behind a prefix byte and run in blocks, with gaps between them.
-/
namespace WasmLens.Wasm

/-- What an opcode stands for, by blocks of consecutive opcodes. -/
def atOpcode? {α : Type} (blocks : List (Nat × List α)) (opcode : Nat) : Option α :=
  blocks.findSome? fun (first, entries) => if first ≤ opcode then entries[opcode - first]? else none

/-- The width of a lane that holds an integer. -/
inductive Lane where
  | w8
  | w16
  | w32
  | w64
  deriving Repr, DecidableEq

namespace Lane

/-- The widths in the order in which opcodes run over them. -/
def all : List Lane := [w8, w16, w32, w64]

def bits : Lane → Nat
  | .w8 => 8
  | .w16 => 16
  | .w32 => 32
  | .w64 => 64

def bytes (l : Lane) : Nat := l.bits / 8

/-- How many lanes a vector has. -/
def count (l : Lane) : Nat := 128 / l.bits

/-- The type that a lane is given as outside a vector. -/
def scalar : Lane → ValType
  | .w8 | .w16 | .w32 => .i32
  | .w64 => .i64

end Lane

/-- What the lanes of a vector hold. -/
inductive Shape where
  | int (lane : Lane)
  | float (w : Width)
  deriving Repr, DecidableEq

namespace Shape

def count : Shape → Nat
  | .int lane => lane.count
  | .float w => 128 / w.bits

def scalar : Shape → ValType
  | .int lane => lane.scalar
  | .float w => w.float

end Shape

/-! ## Lane by lane -/

inductive LaneUnary where
  | abs
  | neg
  | popcnt
  deriving Repr, DecidableEq

inductive LaneBinary where
  | add
  | sub
  | mul
  /-- The nearest integer of the width to the sum. -/
  | addSat (signed : Bool)
  | subSat (signed : Bool)
  | min (signed : Bool)
  | max (signed : Bool)
  /-- The mean of two integers without sign, a half rounded up. -/
  | average
  /-- The product of two fractions of fifteen bits, rounded and saturated. -/
  | fractionProduct
  deriving Repr, DecidableEq

inductive LaneShift where
  | left
  | right (signed : Bool)
  deriving Repr, DecidableEq

inductive Bitwise where
  | and
  | andNot
  | or
  | xor
  deriving Repr, DecidableEq

/-! ## Families -/

/-- What makes a vector of one. -/
inductive VectorUnary where
  | not
  | int (lane : Lane) (op : LaneUnary)
  | float (w : Width) (op : FloatUnary)
  /-- One half of the lanes at twice their width. -/
  | extend (source : Lane) (high signed : Bool)
  /-- The sums of neighbouring lanes at twice their width. -/
  | addPairs (source : Lane) (signed : Bool)
  /-- Floats as the nearest integers of 32 bits. -/
  | truncate (source : Width) (signed : Bool)
  /-- Integers of 32 bits as the nearest floats, as many as there is room for. -/
  | convert (target : Width) (signed : Bool)
  | demote
  | promote
  deriving Repr, DecidableEq

/-- What makes a vector of two. -/
inductive VectorBinary where
  | bitwise (op : Bitwise)
  | int (lane : Lane) (op : LaneBinary)
  | float (w : Width) (op : FloatBinary)
  /-- The second operand where it is less, and otherwise the first, whatever they are. -/
  | pseudoMin (w : Width)
  /-- The second operand where it is greater, and otherwise the first, whatever they are. -/
  | pseudoMax (w : Width)
  /-- All bits of a lane where a relation holds, and none where it does not. -/
  | relation (lane : Lane) (op : IntRelation)
  | floatRelation (w : Width) (op : FloatRelation)
  /-- The lanes of both at half their width, as the nearest integers there. -/
  | narrow (source : Lane) (signed : Bool)
  /-- The products of one half of the lanes at twice their width. -/
  | multiplyHalf (source : Lane) (high signed : Bool)
  /-- The sums of the products of neighbouring lanes of 16 bits. -/
  | dot
  /-- The bytes of the first operand that the second one names; zero where there is none. -/
  | swizzle
  /-- The bytes of both operands by their numbers. -/
  | shuffle (bytes : List Nat)
  deriving Repr, DecidableEq

/-- What makes a number of a vector. -/
inductive VectorTest where
  | anyTrue
  | allTrue (lane : Lane)
  /-- The highest bits of all lanes. -/
  | bitmask (lane : Lane)
  deriving Repr, DecidableEq

/-- The vector operators that only compute on values. -/
inductive VectorOp where
  | unary (op : VectorUnary)
  | binary (op : VectorBinary)
  /-- The bits of the first operand where the third has ones, and those of the second elsewhere. -/
  | bitselect
  | shift (lane : Lane) (op : LaneShift)
  | test (op : VectorTest)
  /-- One value in all lanes. -/
  | splat (shape : Shape)
  | extract (shape : Shape) (signed : Bool) (index : Nat)
  | replace (shape : Shape) (index : Nat)
  deriving Repr, DecidableEq

/-- What a load makes a vector of. -/
inductive VectorLoad where
  /-- Eight bytes as lanes of twice their width. -/
  | extend (source : Lane) (signed : Bool)
  /-- One lane, in all of them. -/
  | splat (lane : Lane)
  /-- The lowest lane, with zeros above. -/
  | zero (lane : Lane)
  deriving Repr, DecidableEq

/-- How many bytes are read. -/
def VectorLoad.bytes : VectorLoad → Nat
  | .extend .. => 8
  | .splat lane | .zero lane => lane.bytes

namespace VectorOp

/-- The types an operator takes, first operand first. -/
def params : VectorOp → List ValType
  | .unary _ | .test _ | .extract .. => [.v128]
  | .binary _ => [.v128, .v128]
  | .bitselect => [.v128, .v128, .v128]
  | .shift .. => [.v128, .i32]
  | .splat shape => [shape.scalar]
  | .replace shape _ => [.v128, shape.scalar]

/-- The type an operator gives. -/
def result : VectorOp → ValType
  | .test _ => .i32
  | .extract shape _ _ => shape.scalar
  | _ => .v128

/-- Whether the lanes that an operator names are there. -/
def lanesExist : VectorOp → Bool
  | .extract shape _ index | .replace shape index => index < shape.count
  | .binary (.shuffle bytes) => bytes.all (· < 32)
  | _ => true

/-! ## Opcodes -/

private def signs (op : Bool → VectorOp) : List VectorOp := [op true, op false]

private def ints (lane : Lane) (ops : List LaneBinary) : List VectorOp := ops.map (.binary <| .int lane ·)

private def relations (lane : Lane) : List VectorOp :=
  [IntRelation.eq, .ne, .ltS, .ltU, .gtS, .gtU, .leS, .leU, .geS, .geU].map (.binary <| .relation lane ·)

private def floatRelations (w : Width) : List VectorOp :=
  [FloatRelation.eq, .ne, .lt, .gt, .le, .ge].map (.binary <| .floatRelation w ·)

private def floatUnaries (w : Width) (ops : List FloatUnary) : List VectorOp := ops.map (.unary <| .float w ·)

private def floatBinaries (w : Width) : List VectorOp :=
  [FloatBinary.add, .sub, .mul, .div, .min, .max].map (.binary <| .float w ·)
    ++ [.binary (.pseudoMin w), .binary (.pseudoMax w)]

private def tests (lane : Lane) : List VectorOp := [.test (.allTrue lane), .test (.bitmask lane)]

private def shifts (lane : Lane) : List VectorOp :=
  [.shift lane .left, .shift lane (.right true), .shift lane (.right false)]

private def sums (lane : Lane) : List VectorOp :=
  ints lane [.add, .addSat true, .addSat false, .sub, .subSat true, .subSat false]

private def extremes (lane : Lane) : List VectorOp := ints lane [.min true, .min false, .max true, .max false]

private def narrowings (source : Lane) : List VectorOp := signs (.binary <| .narrow source ·)

/-- Low half before high half, with sign before without. -/
private def halves (op : (high signed : Bool) → VectorOp) : List VectorOp :=
  [op false true, op true true, op false false, op true false]

private def extensions (source : Lane) : List VectorOp := halves (.unary <| .extend source · ·)

private def halfProducts (source : Lane) : List VectorOp := halves (.binary <| .multiplyHalf source · ·)

private def intUnaries (lane : Lane) (ops : List LaneUnary) : List VectorOp := ops.map (.unary <| .int lane ·)

/-- The operators without immediates, in blocks that begin at an opcode. -/
def blocks : List (Nat × List VectorOp) :=
  [(14, [.binary .swizzle] ++ Lane.all.map (.splat <| .int ·) ++ [.splat (.float .w32), .splat (.float .w64)]),
    (35, relations .w8 ++ relations .w16 ++ relations .w32 ++ floatRelations .w32 ++ floatRelations .w64),
    (77, [.unary .not] ++ [Bitwise.and, .andNot, .or, .xor].map (.binary <| .bitwise ·) ++
      [.bitselect, .test .anyTrue]),
    (94, [.unary .demote, .unary .promote]),
    (96, intUnaries .w8 [.abs, .neg, .popcnt] ++ tests .w8 ++ narrowings .w16
      ++ floatUnaries .w32 [.ceil, .floor, .trunc, .nearest] ++ shifts .w8 ++ sums .w8
      ++ floatUnaries .w64 [.ceil, .floor] ++ extremes .w8 ++ floatUnaries .w64 [.trunc] ++ ints .w8 [.average]
      ++ signs (.unary <| .addPairs .w8 ·) ++ signs (.unary <| .addPairs .w16 ·)),
    (128, intUnaries .w16 [.abs, .neg] ++ ints .w16 [.fractionProduct] ++ tests .w16 ++ narrowings .w32
      ++ extensions .w8 ++ shifts .w16 ++ sums .w16 ++ floatUnaries .w64 [.nearest] ++ ints .w16 [.mul]
      ++ extremes .w16),
    (155, ints .w16 [.average] ++ halfProducts .w8),
    (160, intUnaries .w32 [.abs, .neg]),
    (163, tests .w32),
    (167, extensions .w16 ++ shifts .w32 ++ ints .w32 [.add]),
    (177, ints .w32 [.sub]),
    (181, ints .w32 [.mul] ++ extremes .w32 ++ [.binary .dot]),
    (188, halfProducts .w16 ++ intUnaries .w64 [.abs, .neg]),
    (195, tests .w64),
    (199, extensions .w32 ++ shifts .w64 ++ ints .w64 [.add]),
    (209, ints .w64 [.sub]),
    (213, ints .w64 [.mul]
      ++ [IntRelation.eq, .ne, .ltS, .gtS, .leS, .geS].map (.binary <| .relation .w64 ·) ++ halfProducts .w32
      ++ floatUnaries .w32 [.abs, .neg]),
    (227, floatUnaries .w32 [.sqrt] ++ floatBinaries .w32 ++ floatUnaries .w64 [.abs, .neg]),
    (239, floatUnaries .w64 [.sqrt] ++ floatBinaries .w64 ++ signs (.unary <| .truncate .w32 ·)
      ++ signs (.unary <| .convert .w32 ·) ++ signs (.unary <| .truncate .w64 ·) ++ signs (.unary <| .convert .w64 ·))]

/-- The operator with an opcode, if it has no immediates. -/
def ofOpcode? (opcode : Nat) : Option VectorOp := atOpcode? blocks opcode

/-- The operators that name a lane, in the order of their opcodes, the first being 21. -/
def onLane : List (Nat → VectorOp) :=
  [.extract (.int .w8) true, .extract (.int .w8) false, .replace (.int .w8), .extract (.int .w16) true,
    .extract (.int .w16) false, .replace (.int .w16), .extract (.int .w32) false, .replace (.int .w32),
    .extract (.int .w64) false, .replace (.int .w64), .extract (.float .w32) false, .replace (.float .w32),
    .extract (.float .w64) false, .replace (.float .w64)]

end VectorOp

/-- The loads of vectors, in the order of their opcodes, the first being 1. -/
def VectorLoad.all : List VectorLoad :=
  [.extend .w8 true, .extend .w8 false, .extend .w16 true, .extend .w16 false, .extend .w32 true, .extend .w32 false,
    .splat .w8, .splat .w16, .splat .w32, .splat .w64]

end WasmLens.Wasm
