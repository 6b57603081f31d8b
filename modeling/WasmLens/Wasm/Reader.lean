import WasmLens.Number.Power
import WasmLens.Wasm.Fault

/-!
# Reading bytes

A reader takes bytes off the front of a list. The integers are LEB128: seven bits in each byte, low
bits first, and no more bytes or bits than the width of the integer has.
-/
namespace WasmLens.Wasm

/-- Reads a value from the front of the bytes and leaves the rest. -/
abbrev Reader := StateT (List UInt8) (Except Fault)

namespace Reader

def fail {α : Type} (f : Fault) : Reader α := fun _ => .error f

def byte : Reader UInt8
  | [] => .error .unexpectedEnd
  | b :: bytes => .ok (b, bytes)

/-- The next byte, which stays where it is. -/
def peek : Reader UInt8
  | [] => .error .unexpectedEnd
  | b :: bytes => .ok (b, b :: bytes)

/-- Exactly `count` bytes. -/
def take (count : Nat) : Reader (List UInt8) := fun bytes =>
  if count ≤ bytes.length then .ok (bytes.splitAt count) else .error .unexpectedEnd

/-- An unsigned integer of at most `bits` bits. The last byte may not have bits beyond the width. -/
def unsigned (bits : Nat) : Reader Nat
  | [] => .error .unexpectedEnd
  | b :: bytes =>
    let low := b.toNat % 128
    if b.toNat < 128 then
      if low < twoTo bits then .ok (low, bytes) else .error .integerTooLong
    else if bits ≤ 7 then .error .integerTooLong
    else match unsigned (bits - 7) bytes with
      | .ok (high, rest) => .ok (low + 128 * high, rest)
      | .error f => .error f

/-- A signed integer of at most `bits` bits. The bits of the last byte beyond the width repeat the
sign. -/
def signed (bits : Nat) : Reader Int
  | [] => .error .unexpectedEnd
  | b :: bytes =>
    let low : Int := b.toNat % 128
    if b.toNat < 128 then
      let n := if low < 64 then low else low - 128
      if -(twoTo (bits - 1) : Int) ≤ n ∧ n < twoTo (bits - 1) then .ok (n, bytes) else .error .integerTooLong
    else if bits ≤ 7 then .error .integerTooLong
    else match signed (bits - 7) bytes with
      | .ok (high, rest) => .ok (low + 128 * high, rest)
      | .error f => .error f

def u32 : Reader Nat := unsigned 32

def u64 : Reader Nat := unsigned 64

/-- A count that may be at most `limit`. -/
def count (limit : Nat) (what : String) : Reader Nat := do
  let n ← u32
  if limit < n then fail (.tooMany what) else return n

/-- `count` items one after another. -/
def vector {α : Type} (item : Reader α) : (count : Nat) → Reader (List α)
  | 0 => return []
  | count + 1 => do
    let x ← item
    let xs ← vector item count
    return x :: xs

/-- The longest text that a name may be, in bytes. -/
def maxTextSize : Nat := 100000

/-- A text: its size in bytes and then its UTF-8 encoding. -/
def text : Reader String := do
  let size ← count maxTextSize "text"
  let bytes ← take size
  match String.fromUTF8? bytes.toByteArray with
  | some s => return s
  | none => fail .invalidText

/-- Reads some bytes as a whole: nothing may be left over. -/
def runOn {α : Type} (r : Reader α) (what : String) (bytes : List UInt8) : Except Fault α :=
  match r bytes with
  | .ok (x, []) => .ok x
  | .ok (_, _ :: _) => .error (.trailing what)
  | .error f => .error f

/-- Reads items as long as there are bytes, at most `limit` of them. -/
def upTo {α : Type} (item : Reader α) : (limit : Nat) → List UInt8 → Except Fault (List α)
  | _, [] => .ok []
  | 0, _ :: _ => .error .unexpectedEnd
  | limit + 1, b :: bytes =>
    match item (b :: bytes) with
    | .error f => .error f
    | .ok (x, rest) =>
      match upTo item limit rest with
      | .ok xs => .ok (x :: xs)
      | .error f => .error f

/-- Reads items as long as there are bytes. An item takes a byte at least, so there are no more items
than bytes. -/
def untilEmpty {α : Type} (item : Reader α) (bytes : List UInt8) : Except Fault (List α) :=
  upTo item bytes.length bytes

end Reader

end WasmLens.Wasm
