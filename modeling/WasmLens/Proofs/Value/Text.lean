import WasmLens.Proofs.Floating.Text
import WasmLens.Proofs.Number.Integer
import WasmLens.Value.Text

/-!
# Values in a text

The text of a value is a number, a colon and the name of the type. **The number is read back at this type as the
value**, bit for bit (`readBack`), unless it is a NaN, whose text has no payload.
-/
namespace WasmLens.Value

open Floating Floating.Format

/-- Values that are numbers: all but `void` and NaNs. -/
def IsNumber : Value → Prop
  | .void => False
  | .i32 _ | .i64 _ => True
  | .f32 b => binary32.decode b.toNat ≠ .nan
  | .f64 b => binary64.decode b.toNat ≠ .nan

instance : DecidablePred IsNumber
  | .void => inferInstanceAs (Decidable False)
  | .i32 _ | .i64 _ => inferInstanceAs (Decidable True)
  | .f32 b => inferInstanceAs (Decidable (binary32.decode b.toNat ≠ .nan))
  | .f64 b => inferInstanceAs (Decidable (binary64.decode b.toNat ≠ .nan))

theorem numeral_toString (n : Int) : Numeral (toString n) := by
  have decimal (n : Nat) : ∃ digits power, Decimal (toString (Int.ofNat n)).toList digits power := by
    rw [Number.toList_toString_ofNat]
    exact ⟨_, _, .whole Nat.toDigits_ne_nil Text.isDigit_of_mem_digits⟩
  cases n with
  | ofNat n => exact ⟨false, toString (Int.ofNat n), String.empty_append.symm, .inr (decimal n)⟩
  | negSucc n => exact ⟨true, toString (Int.ofNat (n + 1)), rfl, .inr (decimal (n + 1))⟩

/-- **A value that can be written and read.** -/
structure ReadBack (v : Value) : Prop where
  written : v.text = v.number ++ ":" ++ v.type.name
  numeral : Numeral v.number
  read : Value.read v.type v.number = .ok v

/-- **A number** is read back from its text. -/
theorem readBack {v : Value} (number : v.IsNumber) : v.ReadBack := by
  cases v with
  | void => cases number
  | i32 b =>
    refine ⟨rfl, numeral_toString _, ?_⟩
    show read.word .i32 (Number.readWord 32 (toString b.toInt).toList) = _
    rw [Number.readWord_toString]
    rfl
  | i64 b =>
    refine ⟨rfl, numeral_toString _, ?_⟩
    show read.word .i64 (Number.readWord 64 (toString b.toInt).toList) = _
    rw [Number.readWord_toString]
    rfl
  | f32 b =>
    refine ⟨rfl, numeral_text number, ?_⟩
    show read.float (fun n => .f32 (BitVec.ofNat 32 n)) (binary32.read (binary32.text b.toNat)) = _
    rw [read_text regular_binary32 b.isLt number, read.float, BitVec.ofNat_toNat, BitVec.setWidth_eq]
  | f64 b =>
    refine ⟨rfl, numeral_text number, ?_⟩
    show read.float (fun n => .f64 (BitVec.ofNat 64 n)) (binary64.read (binary64.text b.toNat)) = _
    rw [read_text regular_binary64 b.isLt number, read.float, BitVec.ofNat_toNat, BitVec.setWidth_eq]

-- the payload of a NaN is not written
example : (Value.f32 0x7F800001#32).number = (Value.f32 0x7FC00000#32).number := by decide +kernel

end WasmLens.Value
