import WasmLens.Machine.Val
import WasmLens.Memory.Buffer
import WasmLens.Wasm.Validate.Types

/-!
# Linear memories

The memories of an instance: bytes that grow by pages up to a maximum. Words are stored with their
lowest byte first.
-/
namespace WasmLens.Machine

open Memory

/-- The most pages that can be had at all, whatever a 64-bit memory asks for. -/
def hostPages : Nat := twoTo 31

/-- The most pages that addresses of 32 or 64 bits reach. -/
def addressable (is64 : Bool) : Nat := min hostPages (Wasm.Context.maxPages is64)

structure LinearMemory where
  buffer : Buffer
  /-- The maximum of its type, if that has one. -/
  declared : Option Nat
  is64 : Bool

/-! ## Words -/

/-- The lowest `count` bytes of a number, the lowest first. -/
def bytesOf (n : Nat) : (count : Nat) → List UInt8
  | 0 => []
  | count + 1 => UInt8.ofNat n :: bytesOf (n / 256) count

/-- The number that bytes write, the lowest first. -/
def numberOf : List UInt8 → Nat
  | [] => 0
  | b :: bytes => b.toNat + 256 * numberOf bytes

/-- A loaded number as a value of the type of the access. No access loads a reference. -/
def Val.ofAccess (a : Wasm.Access) (n : Nat) : Val :=
  match a.type with
  | .i32 => .i32 (if a.signed then (BitVec.ofNat (8 * a.bytes) n).signExtend 32 else BitVec.ofNat 32 n)
  | .i64 => .i64 (if a.signed then (BitVec.ofNat (8 * a.bytes) n).signExtend 64 else BitVec.ofNat 64 n)
  | .f32 => .f32 (BitVec.ofNat 32 n)
  | .f64 => .f64 (BitVec.ofNat 64 n)
  | .v128 => .v128 (BitVec.ofNat 128 n)
  | .ref _ => .ref none

namespace LinearMemory

/-- The bytes that the engine asks for to have so many pages. What no address reaches is asked for as
the last whole page that one does. -/
def requested (pages : Nat) : Nat := min (pages * pageSize) (twoTo 64 - pageSize)

/-- Whether a limit on bytes lets a memory have so many pages. -/
def withinLimit (limit : Option Nat) (pages : Nat) : Bool := limit.all (requested pages ≤ ·)

/-- Whether a memory can start out with so many pages. -/
def canStart (limit : Option Nat) (is64 : Bool) (minimum : Nat) : Bool :=
  withinLimit limit minimum && minimum ≤ addressable is64

/-- The most pages of a memory that declares a maximum, or none. -/
def effectiveMaximum (maximum : Option Nat) (is64 : Bool) : Nat :=
  (maximum.map (min (addressable is64))).getD (addressable is64)

theorem effectiveMaximum_le (maximum : Option Nat) (is64 : Bool) :
    effectiveMaximum maximum is64 ≤ addressable is64 := by
  cases maximum with
  | none => exact Nat.le_refl _
  | some n => exact Nat.min_le_left _ n

/-- A memory of zeros. -/
def ofLimits (minimum : Nat) (maximum : Option Nat) (is64 : Bool) : LinearMemory where
  buffer := Buffer.zeros (minimum * pageSize)
  declared := maximum
  is64 := is64

variable (m : LinearMemory)

/-- The most pages it may grow to: its declared maximum, or what its addresses reach. -/
def maximum : Nat := effectiveMaximum m.declared m.is64

theorem reached : m.maximum ≤ addressable m.is64 := effectiveMaximum_le m.declared m.is64

def pages : Nat := m.buffer.pages

/-- Whether a memory may get `delta` more pages. Growing by nothing is always possible. -/
def canGrow (limit : Option Nat) (delta : Nat) : Bool :=
  delta = 0 || (withinLimit limit (m.pages + delta) && m.pages + delta ≤ m.maximum)

def grow (delta : Nat) : LinearMemory := { m with buffer := m.buffer.grow (delta * pageSize) }

/-- Writes bytes that are known to fit. -/
def write (address : Nat) (bytes : List UInt8) : LinearMemory :=
  { m with buffer := m.buffer.store address bytes }

end LinearMemory

end WasmLens.Machine
