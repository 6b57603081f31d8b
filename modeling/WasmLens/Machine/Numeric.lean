import WasmLens.Machine.Trap
import WasmLens.Machine.Val

/-!
# Computing with numbers

The meaning of the numeric operators. Integers are words of either width and wrap around; floats are
bit patterns and go through the arithmetic of their format.
-/
namespace WasmLens.Wasm

open Machine Floating

/-! ## Integers -/

namespace IntUnary

def eval {w : Nat} (op : IntUnary) (a : BitVec w) : BitVec w :=
  match op with
  | .clz => a.clz
  | .ctz => a.ctz
  | .popcnt => a.cpop
  | .extendFrom bits => (a.setWidth bits).signExtend w

end IntUnary

namespace IntBinary

/-- Division traps on zero, and signed division also where the quotient does not fit. A shift takes
its amount modulo the width. -/
def eval {w : Nat} (op : IntBinary) (a b : BitVec w) : Except Trap (BitVec w) :=
  match op with
  | .add => .ok (a + b)
  | .sub => .ok (a - b)
  | .mul => .ok (a * b)
  | .divS =>
    if b = 0 then .error .divisionByZero
    else if a = BitVec.intMin w ∧ b = BitVec.allOnes w then .error .integerOverflow
    else .ok (a.sdiv b)
  | .divU => if b = 0 then .error .divisionByZero else .ok (a.udiv b)
  | .remS => if b = 0 then .error .divisionByZero else .ok (a.srem b)
  | .remU => if b = 0 then .error .divisionByZero else .ok (a.umod b)
  | .and => .ok (a &&& b)
  | .or => .ok (a ||| b)
  | .xor => .ok (a ^^^ b)
  | .shl => .ok (a <<< (b.toNat % w))
  | .shrS => .ok (a.sshiftRight (b.toNat % w))
  | .shrU => .ok (a >>> (b.toNat % w))
  | .rotl => .ok (a.rotateLeft (b.toNat % w))
  | .rotr => .ok (a.rotateRight (b.toNat % w))

end IntBinary

namespace IntRelation

def eval {w : Nat} (op : IntRelation) (a b : BitVec w) : Bool :=
  match op with
  | .eq => a == b
  | .ne => a != b
  | .ltS => a.slt b
  | .ltU => a.ult b
  | .gtS => b.slt a
  | .gtU => b.ult a
  | .leS => a.sle b
  | .leU => a.ule b
  | .geS => b.sle a
  | .geU => b.ule a

end IntRelation

/-! ## Floats -/

def Width.format : Width → Format
  | .w32 => binary32
  | .w64 => binary64

namespace FloatUnary

def eval (f : Format) (op : FloatUnary) (x : Nat) : Nat :=
  match op with
  | .abs => f.absolute x
  | .neg => f.negate x
  | .ceil => f.toIntegral .up x
  | .floor => f.toIntegral .down x
  | .trunc => f.toIntegral .towardZero x
  | .nearest => f.toIntegral .nearestEven x
  | .sqrt => f.sqrt x

end FloatUnary

namespace FloatBinary

def eval (f : Format) (op : FloatBinary) (x y : Nat) : Nat :=
  match op with
  | .add => f.add x y
  | .sub => f.subtract x y
  | .mul => f.multiply x y
  | .div => f.divide x y
  | .min => f.minimum x y
  | .max => f.maximum x y
  | .copysign => f.copySign x y

end FloatBinary

namespace FloatRelation

/-- A relation with a NaN does not hold, inequality excepted. -/
def holds : FloatRelation → Option Ordering → Bool
  | .eq, o => o == some .eq
  | .ne, o => o != some .eq
  | .lt, o => o == some .lt
  | .gt, o => o == some .gt
  | .le, o => o == some .lt || o == some .eq
  | .ge, o => o == some .gt || o == some .eq

def eval (f : Format) (op : FloatRelation) (x y : Nat) : Bool :=
  op.holds (Datum.compare (f.decode x) (f.decode y))

end FloatRelation

/-! ## Conversions -/

/-- The least integer of a width. -/
def leastInt (bits : Nat) (signed : Bool) : Int := if signed then -(twoTo (bits - 1) : Int) else 0

/-- The greatest integer of a width. -/
def greatestInt (bits : Nat) (signed : Bool) : Int :=
  if signed then (twoTo (bits - 1) : Int) - 1 else (twoTo bits : Int) - 1

/-- The integer part of a float, if the width has it. -/
def truncate (bits : Nat) (signed : Bool) (d : Datum) : Except Trap Int :=
  match d.truncate? with
  | none => .error (if d = .nan then .invalidConversion else .integerOverflow)
  | some n =>
    if leastInt bits signed ≤ n ∧ n ≤ greatestInt bits signed then .ok n
    else .error .integerOverflow

/-- The integer of the width nearest to the integer part of a float, and zero for a NaN. -/
def saturate (bits : Nat) (signed : Bool) (d : Datum) : Int :=
  match d with
  | .nan => 0
  | .infinite negative => if negative then leastInt bits signed else greatestInt bits signed
  | .finite .. =>
    max (leastInt bits signed) (min (greatestInt bits signed) (d.truncate?.getD 0))

/-- An integer as a word of either width. -/
def wordOfInt (w : Width) (n : Int) : Val :=
  match w with
  | .w32 => .i32 (BitVec.ofInt 32 n)
  | .w64 => .i64 (BitVec.ofInt 64 n)

/-- A bit pattern as a float of either width. -/
def floatOfBits (w : Width) (n : Nat) : Val :=
  match w with
  | .w32 => .f32 (BitVec.ofNat 32 n)
  | .w64 => .f64 (BitVec.ofNat 64 n)

def readInt {w : Nat} (signed : Bool) (b : BitVec w) : Int := if signed then b.toInt else b.toNat

/-- Converts between integers and floats of all widths. -/
def convert (op : Numeric) (a : Val) : Except Trap Val :=
  match op, a with
  | .wrap, .i64 a => .ok (.i32 (a.setWidth 32))
  | .extend signed, .i32 a => .ok (wordOfInt .w64 (readInt signed a))
  | .truncate target .w32 signed saturating, .f32 a =>
    integer target signed saturating (binary32.decode a.toNat)
  | .truncate target .w64 signed saturating, .f64 a =>
    integer target signed saturating (binary64.decode a.toNat)
  | .convert target .w32 signed, .i32 a => .ok (floatOfBits target (target.format.ofInt (readInt signed a)))
  | .convert target .w64 signed, .i64 a => .ok (floatOfBits target (target.format.ofInt (readInt signed a)))
  | .demote, .f64 a => .ok (floatOfBits .w32 (binary32.convertFrom binary64 a.toNat))
  | .promote, .f32 a => .ok (floatOfBits .w64 (binary64.convertFrom binary32 a.toNat))
  | .toBits .w32, .f32 a => .ok (.i32 a)
  | .toBits .w64, .f64 a => .ok (.i64 a)
  | .ofBits .w32, .i32 a => .ok (.f32 a)
  | .ofBits .w64, .i64 a => .ok (.f64 a)
  | _, _ => .error .illTyped
where
  integer (target : Width) (signed saturating : Bool) (d : Datum) : Except Trap Val :=
    if saturating then .ok (wordOfInt target (saturate target.bits signed d))
    else (truncate target.bits signed d).map (wordOfInt target)

/-! ## All operators -/

namespace Numeric

/-- An operator of one operand. -/
def evalUnary (op : Numeric) (a : Val) : Except Trap Val :=
  match op, a with
  | .isZero .w32, .i32 a => .ok (.ofBool (a == 0))
  | .isZero .w64, .i64 a => .ok (.ofBool (a == 0))
  | .intUnary .w32 op, .i32 a => .ok (.i32 (op.eval a))
  | .intUnary .w64 op, .i64 a => .ok (.i64 (op.eval a))
  | .floatUnary .w32 op, .f32 a => .ok (floatOfBits .w32 (op.eval binary32 a.toNat))
  | .floatUnary .w64 op, .f64 a => .ok (floatOfBits .w64 (op.eval binary64 a.toNat))
  | op, a => Wasm.convert op a

/-- An operator of two operands. -/
def evalBinary (op : Numeric) (a b : Val) : Except Trap Val :=
  match op, a, b with
  | .intBinary .w32 op, .i32 a, .i32 b => (op.eval a b).map .i32
  | .intBinary .w64 op, .i64 a, .i64 b => (op.eval a b).map .i64
  | .intRelation .w32 op, .i32 a, .i32 b => .ok (.ofBool (op.eval a b))
  | .intRelation .w64 op, .i64 a, .i64 b => .ok (.ofBool (op.eval a b))
  | .floatBinary .w32 op, .f32 a, .f32 b =>
    .ok (floatOfBits .w32 (op.eval binary32 a.toNat b.toNat))
  | .floatBinary .w64 op, .f64 a, .f64 b =>
    .ok (floatOfBits .w64 (op.eval binary64 a.toNat b.toNat))
  | .floatRelation .w32 op, .f32 a, .f32 b => .ok (.ofBool (op.eval binary32 a.toNat b.toNat))
  | .floatRelation .w64 op, .f64 a, .f64 b => .ok (.ofBool (op.eval binary64 a.toNat b.toNat))
  | _, _, _ => .error .illTyped

/-- Whether an operator takes two operands. -/
def isBinary : Numeric → Bool
  | .intBinary .. | .intRelation .. | .floatBinary .. | .floatRelation .. => true
  | _ => false

/-- Replaces the operands on top of a stack by the result. -/
def eval (op : Numeric) (stack : List Val) : Except Trap (List Val) :=
  if op.isBinary then
    match stack with
    | b :: a :: rest => (op.evalBinary a b).map (· :: rest)
    | _ => .error .illTyped
  else
    match stack with
    | a :: rest => (op.evalUnary a).map (· :: rest)
    | _ => .error .illTyped

end Numeric

end WasmLens.Wasm
