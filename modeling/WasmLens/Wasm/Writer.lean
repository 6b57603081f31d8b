/-!
# Writing bytes

The inverse of reading, in the shortest form: an integer takes as few bytes as it can.
-/
namespace WasmLens.Wasm.Writer

/-- An unsigned integer in LEB128 with the fewest bytes. -/
def unsigned (n : Nat) : List UInt8 :=
  if n < 128 then [UInt8.ofNat n]
  else UInt8.ofNat (n % 128 + 128) :: unsigned (n / 128)
termination_by n

/-- Bytes with their count in front. -/
def sized (bytes : List UInt8) : List UInt8 := unsigned bytes.length ++ bytes

/-- A text by its UTF-8 encoding. -/
def text (s : String) : List UInt8 := sized s.toUTF8.data.toList

end WasmLens.Wasm.Writer
