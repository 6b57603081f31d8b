import Std.Data.HashMap

/-!
# Byte buffers

A buffer has a size and a byte at every offset below it. Only bytes that were written are stored; the
others are zero, so a buffer of many pages costs what is written to it. Every access is checked
against the size before a byte is touched: it succeeds as a whole or changes nothing.
-/
namespace WasmLens.Memory

/-- Bytes in a page. -/
def pageSize : Nat := 65536

theorem pageSize_pos : 0 < pageSize := Nat.zero_lt_succ _

structure Buffer where
  size : Nat
  written : Std.HashMap Nat UInt8

/-- The access reaches past the end of the buffer. -/
structure OutOfBounds where
  deriving Repr, DecidableEq

def OutOfBounds.message (_ : OutOfBounds) : String := "out of bounds memory access"

/-- A buffer of this size has no byte at the index. -/
structure NoSuchByte where
  size : Nat
  index : Nat
  deriving Repr, DecidableEq

def NoSuchByte.message (e : NoSuchByte) : String :=
  "index out of bounds: the len is " ++ toString e.size ++ " but the index is " ++ toString e.index

namespace Buffer

def zeros (size : Nat) : Buffer := ⟨size, ∅⟩

/-- The byte at an offset, zero where nothing was written. -/
def byte (b : Buffer) (offset : Nat) : UInt8 := b.written.getD offset 0

def isEmpty (b : Buffer) : Bool := b.size = 0

/-- Whole pages in the buffer. -/
def pages (b : Buffer) : Nat := b.size / pageSize

theorem pages_zeros (count : Nat) : (zeros (count * pageSize)).pages = count :=
  Nat.mul_div_cancel count pageSize_pos

/-- The bytes of `length` offsets from `offset` on, whatever the size. -/
def slice (b : Buffer) (offset : Nat) : (length : Nat) → List UInt8
  | 0 => []
  | length + 1 => b.byte offset :: b.slice (offset + 1) length

def toList (b : Buffer) : List UInt8 := b.slice 0 b.size

/-- Stores bytes one after another, whatever the size. -/
def store (b : Buffer) (offset : Nat) : List UInt8 → Buffer
  | [] => b
  | x :: bytes => store { b with written := b.written.insert offset x } (offset + 1) bytes

theorem store_size (b : Buffer) : ∀ (offset : Nat) (bytes : List UInt8), (b.store offset bytes).size = b.size
  | _, [] => rfl
  | offset, x :: bytes => store_size { b with written := b.written.insert offset x } (offset + 1) bytes

/-- Whether `length` bytes at `offset` lie in the buffer. Nothing wraps around: an empty access at
the very end is in bounds, and one beyond it is not. -/
def inBounds (b : Buffer) (offset length : Nat) : Bool := offset + length ≤ b.size

def read (b : Buffer) (offset length : Nat) : Except OutOfBounds (List UInt8) :=
  if b.inBounds offset length then .ok (b.slice offset length) else .error ⟨⟩

def write (b : Buffer) (offset : Nat) (bytes : List UInt8) : Except OutOfBounds Buffer :=
  if b.inBounds offset bytes.length then .ok (b.store offset bytes) else .error ⟨⟩

/-- Sets a single byte, which must be there. -/
def set (b : Buffer) (index : Nat) (x : UInt8) : Except NoSuchByte Buffer :=
  if index < b.size then .ok (b.store index [x]) else .error ⟨b.size, index⟩

def ofList (bytes : List UInt8) : Buffer := (zeros bytes.length).store 0 bytes

/-- A larger buffer with the same bytes, and zeros after them. -/
def grow (b : Buffer) (bytes : Nat) : Buffer := { b with size := b.size + bytes }

theorem pages_grow (b : Buffer) (count : Nat) : (b.grow (count * pageSize)).pages = b.pages + count :=
  Nat.add_mul_div_right b.size count pageSize_pos

end Buffer

end WasmLens.Memory
