import WasmLens.Number.Integer
import WasmLens.Proofs.Text.Digits

/-!
# Integers in a text

An integer that is in range is read from the text that it is written as, with a minus sign or without one
(`readSigned_toString`), and so **each word is read back from its signed text** (`readWord_toString`).
-/
namespace WasmLens.Number

open Text

variable {bound start : Nat} {beyond : IntegerError}

theorem le_ofDigitChars : ∀ (cs : List Char) (start : Nat), start ≤ Nat.ofDigitChars 10 cs start
  | [], _ => Nat.le_refl _
  | c :: cs, start => by
    rw [Nat.ofDigitChars_cons]
    have := le_ofDigitChars cs (10 * start + (c.toNat - '0'.toNat))
    omega

/-- **Digits** are read, as their number is in range: it is the largest that they are read as on the way. -/
theorem readMagnitude_digits : ∀ {cs : List Char} {start : Nat}, (∀ c ∈ cs, c.isDigit) →
    Nat.ofDigitChars 10 cs start ≤ bound → readMagnitude bound beyond start cs = .ok (Nat.ofDigitChars 10 cs start)
  | [], _, _, _ => rfl
  | c :: cs, start, all, inRange => by
    obtain ⟨digit, others⟩ := List.forall_mem_cons.1 all
    rw [Nat.ofDigitChars_cons, Nat.mul_comm] at inRange ⊢
    have next := Nat.le_trans (le_ofDigitChars cs _) inRange
    rw [readMagnitude, if_pos digit]
    dsimp only
    rw [if_neg (Nat.not_lt_of_le next)]
    exact readMagnitude_digits others inRange

theorem readMagnitude_toDigits {n : Nat} (inRange : n ≤ bound) :
    readMagnitude bound beyond 0 (Nat.toDigits 10 n) = .ok n := by
  have value : Nat.ofDigitChars 10 (Nat.toDigits 10 n) 0 = n := Nat.ofDigitChars_ten_toDigits
  rw [readMagnitude_digits isDigit_of_mem_digits (value.symm ▸ inRange), value]

/-! ## Signs -/

theorem toList_toString_ofNat (n : Nat) : (toString (Int.ofNat n)).toList = Nat.toDigits 10 n := by
  show (toString n).toList = _
  rw [Nat.toString_eq_ofList_toDigits, String.toList_ofList]

theorem toList_toString_negSucc (n : Nat) : (toString (Int.negSucc n)).toList = '-' :: Nat.toDigits 10 (n + 1) := by
  show ("-" ++ toString (n + 1)).toList = _
  rw [Nat.toString_eq_ofList_toDigits, String.toList_append]
  exact congrArg (['-'] ++ ·) String.toList_ofList

theorem readSigned_ofNat {width n : Nat} (inRange : n ≤ twoTo (width - 1) - 1) :
    readSigned width (toString (Int.ofNat n)).toList = .ok (Int.ofNat n) := by
  have read : readMagnitude _ .tooLarge 0 (Nat.toDigits 10 n) = .ok n := readMagnitude_toDigits inRange
  obtain ⟨c, cs, front, digit, _⟩ := head_toDigits n
  rw [front] at read
  rw [toList_toString_ofNat, front]
  unfold readSigned
  split <;> rename_i eq
  · cases eq
  · cases eq
    cases digit
  · cases eq
    cases digit
  · rw [read]
    rfl

theorem readSigned_negSucc {width n : Nat} (inRange : n + 1 ≤ twoTo (width - 1)) :
    readSigned width (toString (Int.negSucc n)).toList = .ok (Int.negSucc n) := by
  have read : readMagnitude _ .tooSmall 0 (Nat.toDigits 10 (n + 1)) = .ok (n + 1) := readMagnitude_toDigits inRange
  obtain ⟨c, cs, front, _⟩ := head_toDigits (n + 1)
  rw [front] at read
  rw [toList_toString_negSucc, front]
  rw [readSigned, readSignedDigits, read]
  · rfl
  · exact nofun

/-- **An integer in range** is read from the text that it is written as. -/
theorem readSigned_toString {width : Nat} : ∀ {n : Int}, -(twoTo (width - 1) : Int) ≤ n → n < twoTo (width - 1) →
    readSigned width (toString n).toList = .ok n := by
  rintro (n | n) above below
  · have below : (n : Int) < twoTo (width - 1) := below
    exact readSigned_ofNat (by omega)
  · exact readSigned_negSucc (by omega)

/-- **A word** is read back from its signed text. -/
theorem readWord_toString {width : Nat} (b : BitVec width) : readWord width (toString b.toInt).toList = .ok b := by
  have power : (twoTo (width - 1) : Int) = 2 ^ (width - 1) := Int.natCast_pow 2 _
  rw [readWord, readSigned_toString (power ▸ BitVec.le_toInt b) (power ▸ BitVec.toInt_lt)]
  show Except.ok (BitVec.ofInt width b.toInt) = _
  rw [BitVec.ofInt_toInt]

end WasmLens.Number
