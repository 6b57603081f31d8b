import WasmLens.Wasm.Types

/-!
# Numeric operators

The operators that only compute on numbers, as a few families over the two widths. The list
`Numeric.all` is in the order of their opcodes, which are consecutive.
-/
namespace WasmLens.Wasm

inductive Width where
  | w32
  | w64
  deriving Repr, DecidableEq

namespace Width

def bits : Width → Nat
  | .w32 => 32
  | .w64 => 64

def int : Width → ValType
  | .w32 => .i32
  | .w64 => .i64

def float : Width → ValType
  | .w32 => .f32
  | .w64 => .f64

end Width

inductive IntUnary where
  | clz
  | ctz
  | popcnt
  /-- Sign extension from the lowest bits. -/
  | extendFrom (bits : Nat)
  deriving Repr, DecidableEq

inductive IntBinary where
  | add
  | sub
  | mul
  | divS
  | divU
  | remS
  | remU
  | and
  | or
  | xor
  | shl
  | shrS
  | shrU
  | rotl
  | rotr
  deriving Repr, DecidableEq

inductive IntRelation where
  | eq
  | ne
  | ltS
  | ltU
  | gtS
  | gtU
  | leS
  | leU
  | geS
  | geU
  deriving Repr, DecidableEq

inductive FloatUnary where
  | abs
  | neg
  | ceil
  | floor
  | trunc
  | nearest
  | sqrt
  deriving Repr, DecidableEq

inductive FloatBinary where
  | add
  | sub
  | mul
  | div
  | min
  | max
  | copysign
  deriving Repr, DecidableEq

inductive FloatRelation where
  | eq
  | ne
  | lt
  | gt
  | le
  | ge
  deriving Repr, DecidableEq

inductive Numeric where
  | isZero (w : Width)
  | intRelation (w : Width) (op : IntRelation)
  | intUnary (w : Width) (op : IntUnary)
  | intBinary (w : Width) (op : IntBinary)
  | floatRelation (w : Width) (op : FloatRelation)
  | floatUnary (w : Width) (op : FloatUnary)
  | floatBinary (w : Width) (op : FloatBinary)
  /-- The low half of an `i64`. -/
  | wrap
  /-- An `i32` as an `i64`. -/
  | extend (signed : Bool)
  /-- A float as an integer; one without an integer in range traps or saturates. -/
  | truncate (target source : Width) (signed saturating : Bool)
  /-- An integer as the nearest float. -/
  | convert (target source : Width) (signed : Bool)
  | demote
  | promote
  /-- The bits of a float as an integer. -/
  | toBits (w : Width)
  /-- The float with the bits of an integer. -/
  | ofBits (w : Width)
  deriving Repr, DecidableEq

namespace Numeric

/-- The types an operator takes, first operand first. -/
def params : Numeric → List ValType
  | .isZero w | .intUnary w _ | .ofBits w => [w.int]
  | .intRelation w _ | .intBinary w _ => [w.int, w.int]
  | .floatRelation w _ | .floatBinary w _ => [w.float, w.float]
  | .floatUnary w _ | .toBits w => [w.float]
  | .wrap => [.i64]
  | .extend _ => [.i32]
  | .truncate _ source _ _ => [source.float]
  | .convert _ source _ => [source.int]
  | .demote => [.f64]
  | .promote => [.f32]

/-- The type an operator gives. -/
def result : Numeric → ValType
  | .isZero _ | .intRelation .. | .floatRelation .. => .i32
  | .intUnary w _ | .intBinary w _ | .toBits w => w.int
  | .floatUnary w _ | .floatBinary w _ | .ofBits w => w.float
  | .wrap => .i32
  | .extend _ => .i64
  | .truncate target .. => target.int
  | .convert target .. => target.float
  | .demote => .f32
  | .promote => .f64

private def relations (w : Width) : List Numeric :=
  Numeric.isZero w ::
    [IntRelation.eq, .ne, .ltS, .ltU, .gtS, .gtU, .leS, .leU, .geS, .geU].map (.intRelation w)

private def floatRelations (w : Width) : List Numeric :=
  [FloatRelation.eq, .ne, .lt, .gt, .le, .ge].map (.floatRelation w)

private def integers (w : Width) : List Numeric :=
  [IntUnary.clz, .ctz, .popcnt].map (.intUnary w) ++
    [IntBinary.add, .sub, .mul, .divS, .divU, .remS, .remU, .and, .or, .xor, .shl, .shrS, .shrU,
      .rotl, .rotr].map (.intBinary w)

private def floats (w : Width) : List Numeric :=
  [FloatUnary.abs, .neg, .ceil, .floor, .trunc, .nearest, .sqrt].map (.floatUnary w) ++
    [FloatBinary.add, .sub, .mul, .div, .min, .max, .copysign].map (.floatBinary w)

private def truncations (target : Width) (saturating : Bool) : List Numeric :=
  [.truncate target .w32 true saturating, .truncate target .w32 false saturating,
    .truncate target .w64 true saturating, .truncate target .w64 false saturating]

private def conversionsFromInt (target : Width) : List Numeric :=
  [.convert target .w32 true, .convert target .w32 false, .convert target .w64 true,
    .convert target .w64 false]

/-- The one-byte operators, in the order of their opcodes. -/
def all : List Numeric :=
  relations .w32 ++ relations .w64 ++ floatRelations .w32 ++ floatRelations .w64
    ++ integers .w32 ++ integers .w64 ++ floats .w32 ++ floats .w64
    ++ [wrap] ++ truncations .w32 false ++ [extend true, extend false] ++ truncations .w64 false
    ++ conversionsFromInt .w32 ++ [demote] ++ conversionsFromInt .w64 ++ [promote]
    ++ [toBits .w32, toBits .w64, ofBits .w32, ofBits .w64]
    ++ [intUnary .w32 (.extendFrom 8), intUnary .w32 (.extendFrom 16), intUnary .w64 (.extendFrom 8),
      intUnary .w64 (.extendFrom 16), intUnary .w64 (.extendFrom 32)]

/-- The opcode of the first one-byte operator. -/
def firstOpcode : Nat := 0x45

def ofOpcode? (opcode : Nat) : Option Numeric :=
  if firstOpcode ≤ opcode then all[opcode - firstOpcode]? else none

/-- The saturating truncations, in the order of their second opcodes. -/
def saturating : List Numeric := truncations .w32 true ++ truncations .w64 true

end Numeric

end WasmLens.Wasm
