/-!
# Powers

Powers of two and of ten: the sizes of words and of decimal places.
-/
namespace WasmLens

/-- Two to the power of `n`. -/
abbrev twoTo (n : Nat) : Nat := Nat.pow 2 n

/-- Ten to the power of `n`. -/
abbrev tenTo (n : Nat) : Nat := Nat.pow 10 n

end WasmLens
