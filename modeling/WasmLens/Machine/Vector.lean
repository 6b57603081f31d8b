import WasmLens.Machine.Numeric

/-!
# Computing with vectors

The meaning of the vector operators. A vector is taken apart into lanes of one width, the lowest first, and put together
again; what happens to a lane is what the numeric operators do, or integer arithmetic that saturates.
-/
namespace WasmLens.Wasm

open Machine Floating

/-! ## Lanes -/

/-- The lanes of a vector. -/
def lanesOf (w : Nat) (v : BitVec 128) : List (BitVec w) := (List.range (128 / w)).map fun i => v.extractLsb' (i * w) w

/-- The vector of some lanes. What they do not fill is zero. -/
def ofLanes {w : Nat} (lanes : List (BitVec w)) : BitVec 128 :=
  lanes.foldr (fun lane v => v <<< w ||| lane.setWidth 128) 0

/-- Replaces one lane. -/
def setLane {w : Nat} (v : BitVec 128) (index : Nat) (lane : BitVec w) : BitVec 128 :=
  ofLanes ((lanesOf w v).set index lane)

/-- The same function on all lanes. -/
def mapLanes {w u : Nat} (f : BitVec w → BitVec u) (v : BitVec 128) : BitVec 128 := ofLanes ((lanesOf w v).map f)

/-- The same function on each two lanes at one place. -/
def zipLanes {w u : Nat} (f : BitVec w → BitVec w → BitVec u) (a b : BitVec 128) : BitVec 128 :=
  ofLanes (List.zipWith f (lanesOf w a) (lanesOf w b))

/-- One half of the lanes. -/
def halfOf {α : Type} (high : Bool) (lanes : List α) : List α :=
  if high then lanes.drop (lanes.length / 2) else lanes.take (lanes.length / 2)

/-- A function of each lane and its neighbour. -/
def pairwise {α β : Type} (f : α → α → β) : List α → List β
  | a :: b :: rest => f a b :: pairwise f rest
  | _ => []

/-- The integer of a width nearest to a given one. -/
def clamp (w : Nat) (signed : Bool) (n : Int) : BitVec w :=
  BitVec.ofInt w (max (leastInt w signed) (min (greatestInt w signed) n))

/-- A lane whose bits are all one answer. -/
def allOf (w : Nat) (holds : Bool) : BitVec w := if holds then BitVec.allOnes w else 0

/-! ## Lane by lane -/

namespace LaneUnary

def eval {w : Nat} (op : LaneUnary) (a : BitVec w) : BitVec w :=
  match op with
  | .abs => a.abs
  | .neg => -a
  | .popcnt => a.cpop

end LaneUnary

namespace LaneBinary

def eval {w : Nat} (op : LaneBinary) (a b : BitVec w) : BitVec w :=
  match op with
  | .add => a + b
  | .sub => a - b
  | .mul => a * b
  | .addSat signed => clamp w signed (readInt signed a + readInt signed b)
  | .subSat signed => clamp w signed (readInt signed a - readInt signed b)
  | .min signed => if readInt signed a ≤ readInt signed b then a else b
  | .max signed => if readInt signed a ≤ readInt signed b then b else a
  | .average => BitVec.ofNat w ((a.toNat + b.toNat + 1) / 2)
  | .fractionProduct => clamp w true ((a.toInt * b.toInt + twoTo 14) / twoTo 15)

end LaneBinary

namespace LaneShift

/-- A shift takes its amount modulo the width of a lane. -/
def eval {w : Nat} (op : LaneShift) (a : BitVec w) (amount : Nat) : BitVec w :=
  match op with
  | .left => a <<< (amount % w)
  | .right true => a.sshiftRight (amount % w)
  | .right false => a >>> (amount % w)

end LaneShift

namespace Bitwise

def eval (op : Bitwise) (a b : BitVec 128) : BitVec 128 :=
  match op with
  | .and => a &&& b
  | .andNot => a &&& ~~~b
  | .or => a ||| b
  | .xor => a ^^^ b

end Bitwise

/-! ## Whole vectors -/

namespace VectorUnary

def eval (op : VectorUnary) (v : BitVec 128) : BitVec 128 :=
  match op with
  | .not => ~~~v
  | .int lane op => mapLanes (w := lane.bits) op.eval v
  | .float w op => mapLanes (fun a : BitVec w.bits => BitVec.ofNat w.bits (op.eval w.format a.toNat)) v
  | .extend source high signed =>
    ofLanes ((halfOf high (lanesOf source.bits v)).map fun a => BitVec.ofInt (2 * source.bits) (readInt signed a))
  | .addPairs source signed =>
    ofLanes (pairwise (fun a b => BitVec.ofInt (2 * source.bits) (readInt signed a + readInt signed b))
      (lanesOf source.bits v))
  | .truncate source signed =>
    mapLanes (fun a : BitVec source.bits => BitVec.ofInt 32 (saturate 32 signed (source.format.decode a.toNat))) v
  | .convert target signed =>
    ofLanes (((lanesOf 32 v).take (128 / target.bits)).map fun a =>
      BitVec.ofNat target.bits (target.format.ofInt (readInt signed a)))
  | .demote => mapLanes (fun a : BitVec 64 => BitVec.ofNat 32 (binary32.convertFrom binary64 a.toNat)) v
  | .promote =>
    ofLanes ((halfOf false (lanesOf 32 v)).map fun a => BitVec.ofNat 64 (binary64.convertFrom binary32 a.toNat))

end VectorUnary

namespace VectorBinary

def eval (op : VectorBinary) (a b : BitVec 128) : BitVec 128 :=
  match op with
  | .bitwise op => op.eval a b
  | .int lane op => zipLanes (w := lane.bits) op.eval a b
  | .float w op => zipLanes (fun x y : BitVec w.bits => BitVec.ofNat w.bits (op.eval w.format x.toNat y.toNat)) a b
  | .pseudoMin w =>
    zipLanes (fun x y : BitVec w.bits => if FloatRelation.lt.eval w.format y.toNat x.toNat then y else x) a b
  | .pseudoMax w =>
    zipLanes (fun x y : BitVec w.bits => if FloatRelation.lt.eval w.format x.toNat y.toNat then y else x) a b
  | .relation lane op => zipLanes (fun x y : BitVec lane.bits => allOf lane.bits (op.eval x y)) a b
  | .floatRelation w op =>
    zipLanes (fun x y : BitVec w.bits => allOf w.bits (op.eval w.format x.toNat y.toNat)) a b
  | .narrow source signed =>
    ofLanes ((lanesOf source.bits a ++ lanesOf source.bits b).map fun x => clamp (source.bits / 2) signed x.toInt)
  | .multiplyHalf source high signed =>
    ofLanes (List.zipWith (fun x y => BitVec.ofInt (2 * source.bits) (readInt signed x * readInt signed y))
      (halfOf high (lanesOf source.bits a)) (halfOf high (lanesOf source.bits b)))
  | .dot =>
    ofLanes (pairwise (fun m n => BitVec.ofInt 32 (m + n))
      (List.zipWith (fun x y : BitVec 16 => x.toInt * y.toInt) (lanesOf 16 a) (lanesOf 16 b)))
  | .swizzle => mapLanes (fun i : BitVec 8 => (lanesOf 8 a)[i.toNat]?.getD 0) b
  | .shuffle bytes => ofLanes (bytes.map fun i => (lanesOf 8 a ++ lanesOf 8 b)[i]?.getD 0)

end VectorBinary

namespace VectorTest

def eval (op : VectorTest) (v : BitVec 128) : Val :=
  match op with
  | .anyTrue => .ofBool (v != 0)
  | .allTrue lane => .ofBool ((lanesOf lane.bits v).all (· != 0))
  | .bitmask lane =>
    .i32 ((lanesOf lane.bits v).foldr (fun a mask => mask <<< 1 ||| (if a.msb then 1 else 0)) 0)

end VectorTest

/-! ## Between vectors and numbers -/

def Shape.bits : Shape → Nat
  | .int lane => lane.bits
  | .float w => w.bits

/-- A lane as a value of its own. -/
def Shape.valueOf (shape : Shape) (signed : Bool) (lane : BitVec shape.bits) : Val :=
  match shape with
  | .int .w64 => .i64 (BitVec.ofInt 64 (readInt signed lane))
  | .int _ => .i32 (BitVec.ofInt 32 (readInt signed lane))
  | .float w => floatOfBits w lane.toNat

/-- What an access to a vector reads, made of the number that its bytes write. -/
def VectorLoad.make (form : VectorLoad) (n : Nat) : BitVec 128 :=
  match form with
  | .extend source signed => (VectorUnary.extend source false signed).eval (BitVec.ofNat 128 n)
  | .splat lane => ofLanes (List.replicate lane.count (BitVec.ofNat lane.bits n))
  | .zero _ => BitVec.ofNat 128 n

namespace VectorOp

/-- Replaces the operands on top of a stack by the result. -/
def eval (op : VectorOp) (stack : List Val) : Except Trap (List Val) :=
  match op, stack with
  | .unary op, .v128 a :: rest => .ok (.v128 (op.eval a) :: rest)
  | .binary op, .v128 b :: .v128 a :: rest => .ok (.v128 (op.eval a b) :: rest)
  | .bitselect, .v128 mask :: .v128 b :: .v128 a :: rest => .ok (.v128 ((a &&& mask) ||| (b &&& ~~~mask)) :: rest)
  | .shift lane op, .i32 amount :: .v128 a :: rest =>
    .ok (.v128 (mapLanes (fun x : BitVec lane.bits => op.eval x amount.toNat) a) :: rest)
  | .test op, .v128 a :: rest => .ok (op.eval a :: rest)
  | .splat shape, x :: rest =>
    match x.number? with
    | some n => .ok (.v128 (ofLanes (List.replicate shape.count (BitVec.ofNat shape.bits n))) :: rest)
    | none => .error .illTyped
  | .extract shape signed index, .v128 a :: rest =>
    .ok (shape.valueOf signed ((lanesOf shape.bits a)[index]?.getD 0) :: rest)
  | .replace shape index, x :: .v128 a :: rest =>
    match x.number? with
    | some n => .ok (.v128 (setLane a index (BitVec.ofNat shape.bits n)) :: rest)
    | none => .error .illTyped
  | _, _ => .error .illTyped

end VectorOp

end WasmLens.Wasm
