import WasmLens.Proofs.Number.Integer
import WasmLens.Proofs.Outcome
import WasmLens.Value.Text

/-!
# Texts that are integers

A word is read by two readers in turn: as a signed integer, and if it is none, as an unsigned one. Each of them stops at
the first digit that takes it out of its range, so which texts it accepts is a matter of the whole number only
(`readSignedDigits_eq_ok_iff`). **Together they accept every integer between the least signed word and the largest
unsigned one, and no other text** (`readWord_eq_ok_iff`, `read_integers`).
-/
namespace WasmLens

namespace Number

variable {bound n : Nat} {beyond : IntegerError} {digits : List Char}

/-! ## Digits -/

/-- One or more decimal digits, and the number that they write. Zeros may stand in front. -/
structure Digits (digits : List Char) (n : Nat) : Prop where
  some : digits ≠ []
  all : ∀ c ∈ digits, c.isDigit
  value : Nat.ofDigitChars 10 digits 0 = n

/-- Digits in range are read, and nothing else. The number only grows on the way. -/
theorem readMagnitude_eq_ok_iff {cs : List Char} {start : Nat} (inRange : start ≤ bound) :
    readMagnitude bound beyond start cs = .ok n ↔
      (∀ c ∈ cs, c.isDigit) ∧ Nat.ofDigitChars 10 cs start = n ∧ n ≤ bound := by
  induction cs generalizing start with
  | nil =>
    rw [readMagnitude, Except.ok.injEq, Nat.ofDigitChars_nil]
    constructor
    · rintro rfl
      exact ⟨List.forall_mem_nil _, rfl, inRange⟩
    · rintro ⟨_, same, _⟩
      exact same
  | cons c cs ih =>
    rw [readMagnitude, List.forall_mem_cons, Nat.ofDigitChars_cons, Nat.mul_comm 10 start]
    split
    · rename_i digit
      dsimp only
      split
      · rename_i out
        -- later digits do not lead back into the range
        have := le_ofDigitChars cs (start * 10 + (c.toNat - '0'.toNat))
        constructor
        · intro read
          cases read
        · rintro ⟨_, rfl, below⟩
          omega
      · rename_i still
        rw [ih (Nat.not_lt.1 still), and_assoc]
        exact (and_iff_right digit).symm
    · rename_i other
      constructor
      · intro read
        cases read
      · rintro ⟨⟨digit, _⟩, _⟩
        exact absurd digit other

theorem readSignedDigits_eq_ok_iff :
    readSignedDigits bound beyond digits = .ok n ↔ Digits digits n ∧ n ≤ bound := by
  cases digits with
  | nil =>
    constructor
    · intro read
      cases read
    · rintro ⟨number, _⟩
      exact absurd rfl number.some
  | cons c cs =>
    rw [readSignedDigits, readMagnitude_eq_ok_iff (Nat.zero_le bound)]
    · constructor
      · rintro ⟨all, value, inRange⟩
        exact ⟨⟨List.cons_ne_nil c cs, all, value⟩, inRange⟩
      · rintro ⟨number, inRange⟩
        exact ⟨number.all, number.value, inRange⟩
    · intro empty
      cases empty

theorem readMagnitude_eq_readSignedDigits (some : digits ≠ []) :
    readMagnitude bound beyond 0 digits = readSignedDigits bound beyond digits := by
  cases digits with
  | nil => exact absurd rfl some
  | cons _ _ => rfl

/-! ## Signs -/

/-- **The text of an integer**: digits, with a sign in front or without one. -/
inductive Denotes : List Char → Int → Prop where
  | bare {digits : List Char} {n : Nat} (number : Digits digits n) : Denotes digits n
  | plus {digits : List Char} {n : Nat} (number : Digits digits n) : Denotes ('+' :: digits) n
  | minus {digits : List Char} {n : Nat} (number : Digits digits n) : Denotes ('-' :: digits) (-n)

theorem Digits.head {c : Char} (number : Digits (c :: digits) n) : c.isDigit := number.all c List.mem_cons_self

theorem denotes_plus_iff {i : Int} : Denotes ('+' :: digits) i ↔ ∃ n : Nat, Digits digits n ∧ i = n := by
  constructor
  · intro denotes
    cases denotes with
    | bare number => cases number.head
    | plus number => exact ⟨_, number, rfl⟩
  · rintro ⟨n, number, rfl⟩
    exact .plus number

theorem denotes_minus_iff {i : Int} : Denotes ('-' :: digits) i ↔ ∃ n : Nat, Digits digits n ∧ i = -n := by
  constructor
  · intro denotes
    cases denotes with
    | bare number => cases number.head
    | minus number => exact ⟨_, number, rfl⟩
  · rintro ⟨n, number, rfl⟩
    exact .minus number

theorem denotes_bare_iff {i : Int} (noPlus : ∀ rest, digits ≠ '+' :: rest) (noMinus : ∀ rest, digits ≠ '-' :: rest) :
    Denotes digits i ↔ ∃ n : Nat, Digits digits n ∧ i = n := by
  constructor
  · intro denotes
    cases denotes with
    | bare number => exact ⟨_, number, rfl⟩
    | plus => exact absurd rfl (noPlus _)
    | minus => exact absurd rfl (noMinus _)
  · rintro ⟨n, number, rfl⟩
    exact .bare number

/-- A text is that of one integer. -/
theorem Denotes.unique {text : List Char} {i i' : Int} (h : Denotes text i) (h' : Denotes text i') : i = i' := by
  cases h with
  | bare number =>
    cases h' with
    | bare number' => rw [← number.value, number'.value]
    | plus | minus => cases number.head
  | plus number =>
    obtain ⟨_, number', rfl⟩ := denotes_plus_iff.1 h'
    rw [← number.value, number'.value]
  | minus number =>
    obtain ⟨_, number', rfl⟩ := denotes_minus_iff.1 h'
    rw [← number.value, number'.value]

/-! ## Words -/

section

variable {width : Nat} {text : List Char}

/-- **Which texts are signed words.** -/
theorem readSigned_eq_ok_iff {i : Int} : readSigned width text = .ok i ↔
    Denotes text i ∧ -(twoTo (width - 1) : Int) ≤ i ∧ i < twoTo (width - 1) := by
  have some : 0 < twoTo (width - 1) := Nat.two_pow_pos _
  -- with digits alone or behind a plus sign
  have above (digits : List Char) (denotes : ∀ i : Int, Denotes text i ↔ ∃ n : Nat, Digits digits n ∧ i = n) :
      (readSignedDigits (twoTo (width - 1) - 1) .tooLarge digits).map Int.ofNat = .ok i ↔
        Denotes text i ∧ -(twoTo (width - 1) : Int) ≤ i ∧ i < twoTo (width - 1) := by
    simp only [map_eq_ok_iff, readSignedDigits_eq_ok_iff, denotes, Int.ofNat_eq_natCast]
    constructor
    · rintro ⟨n, ⟨number, inRange⟩, rfl⟩
      exact ⟨⟨n, number, rfl⟩, by omega, by omega⟩
    · rintro ⟨⟨n, number, rfl⟩, _, inRange⟩
      exact ⟨n, ⟨number, by omega⟩, rfl⟩
  unfold readSigned
  split
  · refine ⟨nofun, fun ⟨denotes, _⟩ => ?_⟩
    cases denotes with
    | bare number => exact absurd rfl number.some
  · exact above _ fun _ => denotes_plus_iff
  · simp only [map_eq_ok_iff, bind_eq_ok_iff, pure_eq_ok_iff, readSignedDigits_eq_ok_iff, denotes_minus_iff]
    constructor
    · rintro ⟨_, ⟨n, ⟨number, inRange⟩, rfl⟩, rfl⟩
      exact ⟨⟨n, number, rfl⟩, by omega, by omega⟩
    · rintro ⟨⟨n, number, rfl⟩, inRange, _⟩
      exact ⟨n, ⟨n, ⟨number, by omega⟩, rfl⟩, rfl⟩
  · rename_i nonempty noPlus noMinus
    rw [readMagnitude_eq_readSignedDigits nonempty]
    exact above _ fun _ => denotes_bare_iff (fun rest => noPlus rest) fun rest => noMinus rest

/-- **Which texts are unsigned words.** A minus sign is refused, also in front of zero. -/
theorem readUnsigned_eq_ok_iff {n : Nat} : readUnsigned width text = .ok n ↔
    Denotes text n ∧ (∀ rest, text ≠ '-' :: rest) ∧ n < twoTo width := by
  have some : 0 < twoTo width := Nat.two_pow_pos _
  have above (digits : List Char) (denotes : ∀ i : Int, Denotes text i ↔ ∃ n : Nat, Digits digits n ∧ i = n)
      (noMinus : ∀ rest, text ≠ '-' :: rest) : readSignedDigits (twoTo width - 1) .tooLarge digits = .ok n ↔
        Denotes text n ∧ (∀ rest, text ≠ '-' :: rest) ∧ n < twoTo width := by
    rw [readSignedDigits_eq_ok_iff, denotes, and_iff_right noMinus]
    constructor
    · rintro ⟨number, inRange⟩
      exact ⟨⟨n, number, rfl⟩, by omega⟩
    · rintro ⟨⟨m, number, same⟩, inRange⟩
      obtain rfl := Int.ofNat.inj same
      exact ⟨number, by omega⟩
  unfold readUnsigned
  split
  · refine ⟨nofun, fun ⟨denotes, _⟩ => ?_⟩
    cases denotes with
    | bare number => exact absurd rfl number.some
  · exact above _ (fun _ => denotes_plus_iff) nofun
  · rename_i nonempty noPlus
    by_cases noMinus : ∀ rest, text ≠ '-' :: rest
    · rw [readMagnitude_eq_readSignedDigits nonempty]
      exact above _ (fun _ => denotes_bare_iff (fun rest => noPlus rest) noMinus) noMinus
    · refine ⟨fun read => ?_, fun ⟨_, noMinus', _⟩ => absurd noMinus' noMinus⟩
      obtain ⟨rest, rfl⟩ : ∃ rest, text = '-' :: rest := by simpa using noMinus
      cases read

/-- **Which texts are words**: integers from the least signed to the largest unsigned one. -/
theorem readWord_eq_ok_iff {b : BitVec width} : readWord width text = .ok b ↔
    ∃ i : Int, Denotes text i ∧ -(twoTo (width - 1) : Int) ≤ i ∧ i < twoTo width ∧ b = BitVec.ofInt width i := by
  have half : twoTo (width - 1) ≤ twoTo width := Nat.pow_le_pow_right (by decide) (Nat.sub_le ..)
  unfold readWord
  split
  · rename_i i read
    obtain ⟨denotes, least, below⟩ := readSigned_eq_ok_iff.1 read
    rw [Except.ok.injEq]
    constructor
    · rintro rfl
      exact ⟨i, denotes, least, by omega, rfl⟩
    · rintro ⟨i', denotes', _, _, rfl⟩
      rw [denotes.unique denotes']
  · rename_i cause refused
    rw [map_eq_ok_iff]
    constructor
    · rintro ⟨n, read, rfl⟩
      obtain ⟨denotes, _, below⟩ := readUnsigned_eq_ok_iff.1 read
      exact ⟨n, denotes, by omega, by omega, (BitVec.ofInt_natCast ..).symm⟩
    · rintro ⟨i, denotes, least, below, rfl⟩
      -- what the first reader has refused is too large for it, and so it has no minus sign
      have large : (twoTo (width - 1) : Int) ≤ i := by
        refine Int.not_lt.1 fun small => ?_
        rw [readSigned_eq_ok_iff.2 ⟨denotes, least, small⟩] at refused
        cases refused
      obtain ⟨n, rfl⟩ := Int.eq_ofNat_of_zero_le (Int.le_trans (Int.natCast_nonneg _) large)
      refine ⟨n, readUnsigned_eq_ok_iff.2 ⟨denotes, ?_, by omega⟩, (BitVec.ofInt_natCast ..).symm⟩
      rintro rest rfl
      obtain ⟨m, _, negative⟩ := denotes_minus_iff.1 denotes
      have some : 0 < twoTo (width - 1) := Nat.two_pow_pos _
      omega

end

end Number

namespace Value

open Number

variable {w : Nat} {t : ValueType} {make : BitVec w → Value} {raw : String}

/-- **How the integers of a type are read**, whose values are words of some width. -/
structure ReadsIntegers (t : ValueType) (make : BitVec w → Value) (raw : String) : Prop where
  /-- A text is accepted if it is that of an integer between the least signed word and the largest unsigned one. The
  bits are those of the integer, as far as the word goes. -/
  accepted : ∀ v, read t raw = .ok v ↔ ∃ i : Int, Denotes raw.toList i ∧ -(twoTo (w - 1) : Int) ≤ i ∧ i < twoTo w ∧
    ∃ b, v = make b ∧ (b.toNat : Int) = i % twoTo w
  /-- All other texts are no integers. -/
  refused : (∃ cause, read t raw = .error (.integer cause)) ↔
    ¬∃ i : Int, Denotes raw.toList i ∧ -(twoTo (w - 1) : Int) ≤ i ∧ i < twoTo w

theorem toNat_eq_emod_iff {b : BitVec w} {i : Int} : (b.toNat : Int) = i % twoTo w ↔ b = BitVec.ofInt w i := by
  have bits : ((BitVec.ofInt w i).toNat : Int) = i % twoTo w := by
    have some : 0 < twoTo w := Nat.two_pow_pos w
    have nonzero : (twoTo w : Int) ≠ 0 := by omega
    rw [BitVec.toNat_ofInt]
    exact Int.toNat_of_nonneg (Int.emod_nonneg i nonzero)
  rw [← bits, Int.natCast_inj, BitVec.toNat_inj]

theorem word_eq_ok_iff {x : Except IntegerError (BitVec w)} {v : Value} :
    read.word make x = .ok v ↔ ∃ b, x = .ok b ∧ v = make b := by
  cases x <;> simp [read.word, eq_comm]

theorem word_eq_error_iff {x : Except IntegerError (BitVec w)} :
    (∃ cause, read.word make x = .error (.integer cause)) ↔ ¬∃ b, x = .ok b := by
  cases x <;> simp [read.word]

/-- A type whose values are words is read like them. -/
theorem readsIntegers (word : read t raw = read.word make (readWord w raw.toList)) : ReadsIntegers t make raw := by
  constructor
  · intro v
    simp only [word, word_eq_ok_iff, readWord_eq_ok_iff, toNat_eq_emod_iff]
    constructor
    · rintro ⟨b, ⟨i, denotes, least, most, bits⟩, rfl⟩
      exact ⟨i, denotes, least, most, b, rfl, bits⟩
    · rintro ⟨i, denotes, least, most, b, rfl, bits⟩
      exact ⟨b, ⟨i, denotes, least, most, bits⟩, rfl⟩
  · simp only [word, word_eq_error_iff, readWord_eq_ok_iff]
    refine not_congr ⟨?_, ?_⟩
    · rintro ⟨_, i, denotes, least, most, _⟩
      exact ⟨i, denotes, least, most⟩
    · rintro ⟨i, denotes, least, most⟩
      exact ⟨_, i, denotes, least, most, rfl⟩

/-- **Integers are read** at both of their types. -/
theorem read_integers (raw : String) : ReadsIntegers .i32 .i32 raw ∧ ReadsIntegers .i64 .i64 raw :=
  ⟨readsIntegers rfl, readsIntegers rfl⟩

example : ["-2147483648", "+0004294967295", "-0", "4294967296", "-2147483649", "+-1", "+", ""].map
    (fun raw => (read .i32 raw).toOption) =
      [some (.i32 0x80000000), some (.i32 0xffffffff), some (.i32 0), none, none, none, none, none] := by
  decide +kernel

end Value

end WasmLens
