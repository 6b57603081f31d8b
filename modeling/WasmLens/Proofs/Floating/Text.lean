import WasmLens.Proofs.Floating.Shortest
import WasmLens.Proofs.Text.Digits

/-!
# Floats in a text

A float is written as the decimal that the search stops at, with a point where it has decimal places and with zeros
where it has none. **Each pattern but a NaN is read back from its text**, bit for bit (`read_text`).
-/
namespace WasmLens.Floating

open Text

/-! ## Decimals -/

theorem digitsValue_eq (digits : List Char) : digitsValue digits = Nat.ofDigitChars 10 digits 0 := by
  rw [digitsValue, Nat.ofDigitChars_eq_foldl]
  simp only [Nat.mul_comm]

/-- An unsigned decimal, with its digits as a number and its places as a power of ten. -/
inductive Decimal : List Char → Nat → Int → Prop
  | whole {digits : List Char} (nonempty : digits ≠ []) (all : ∀ c ∈ digits, c.isDigit) :
      Decimal digits (digitsValue digits) 0
  | point {whole fraction : List Char} (nonempty : whole ≠ []) (all : ∀ c ∈ whole, c.isDigit)
      (places : ∀ c ∈ fraction, c.isDigit) :
      Decimal (whole ++ '.' :: fraction) (digitsValue (whole ++ fraction)) (-fraction.length)

variable {text : List Char} {digits : Nat} {power : Int}

theorem Decimal.first (decimal : Decimal text digits power) : ∃ c rest, text = c :: rest ∧ c.isDigit := by
  cases decimal with
  | whole nonempty all =>
    obtain ⟨c, cs, rfl⟩ := List.exists_cons_of_ne_nil nonempty
    exact ⟨c, cs, rfl, all c List.mem_cons_self⟩
  | point nonempty all _ =>
    obtain ⟨c, cs, rfl⟩ := List.exists_cons_of_ne_nil nonempty
    exact ⟨c, _, rfl, all c List.mem_cons_self⟩

/-- **A decimal is read** as its digits and its power. -/
theorem Decimal.read (decimal : Decimal text digits power) : readDecimal text = some (digits, power) := by
  cases decimal with
  | @whole _ nonempty all =>
    have front := takeWhile_run all stops_nil
    have back := dropWhile_run all stops_nil
    obtain ⟨c, cs, rfl⟩ := List.exists_cons_of_ne_nil nonempty
    rw [List.append_nil] at front back
    rw [readDecimal, front, back]
    show some (digitsValue (c :: cs ++ []), 0) = _
    rw [List.append_nil]
  | @point whole fraction nonempty all places =>
    have stops : Stops Char.isDigit ('.' :: fraction) := stops_cons rfl
    have front := takeWhile_run all stops
    have back := dropWhile_run all stops
    have places_front := takeWhile_run places stops_nil
    have places_back := dropWhile_run places stops_nil
    obtain ⟨c, cs, rfl⟩ := List.exists_cons_of_ne_nil nonempty
    rw [List.append_nil] at places_front places_back
    rw [readDecimal, front, back]
    simp only [places_front, places_back]
    rfl

theorem isDigit_of_mem_zeros {zeros : Nat} : ∀ c ∈ List.replicate zeros '0', c.isDigit := fun c mem => by
  rw [List.eq_of_mem_replicate mem]
  rfl

/-- Zeros behind a number are places, -/
theorem digitsValue_append_zeros (n zeros : Nat) :
    digitsValue (Nat.toDigits 10 n ++ List.replicate zeros '0') = 10 ^ zeros * n := by
  rw [digitsValue_eq, Nat.ofDigitChars_append, Nat.ofDigitChars_ten_toDigits, Nat.ofDigitChars_replicate_zero]

/-- and zeros in front of it are nothing. -/
theorem digitsValue_zeros_append (n zeros : Nat) :
    digitsValue (List.replicate zeros '0' ++ Nat.toDigits 10 n) = n := by
  rw [digitsValue_eq, Nat.ofDigitChars_append, Nat.ofDigitChars_replicate_zero, Nat.mul_zero,
    Nat.ofDigitChars_ten_toDigits]

theorem decimal_positional_natCast (digits zeros : Nat) :
    Decimal (positional digits zeros).toList (10 ^ zeros * digits) 0 := by
  rw [positional, if_pos (Int.natCast_nonneg zeros), Int.toNat_natCast, String.toList_ofList,
    ← digitsValue_append_zeros]
  exact .whole (List.append_ne_nil_of_left_ne_nil Nat.toDigits_ne_nil _)
    (List.forall_mem_append.2 ⟨isDigit_of_mem_digits, isDigit_of_mem_zeros⟩)

theorem decimal_positional_neg (digits : Nat) {places : Nat} (pos : 0 < places) :
    Decimal (positional digits (-places)).toList digits (-places) := by
  obtain ⟨padded, padded_eq⟩ : ∃ padded, padded =
      List.replicate (places + 1 - (Nat.toDigits 10 digits).length) '0' ++ Nat.toDigits 10 digits := ⟨_, rfl⟩
  have value : digitsValue padded = digits := padded_eq ▸ digitsValue_zeros_append ..
  have all : ∀ c ∈ padded, c.isDigit :=
    padded_eq ▸ List.forall_mem_append.2 ⟨isDigit_of_mem_zeros, isDigit_of_mem_digits⟩
  -- there is at least one digit in front of the point
  have long : places < padded.length := by
    rw [padded_eq, List.length_append, List.length_replicate]
    omega
  have nonempty : padded.take (padded.length - places) ≠ [] := by
    refine List.ne_nil_of_length_pos ?_
    rw [List.length_take]
    omega
  have behind : ((padded.drop (padded.length - places)).length : Int) = places := by
    rw [List.length_drop]
    omega
  have point : Decimal (padded.take (padded.length - places) ++ '.' :: padded.drop (padded.length - places)) _ _ :=
    .point nonempty (fun c mem => all c (List.mem_of_mem_take mem)) (fun c mem => all c (List.mem_of_mem_drop mem))
  rw [List.take_append_drop, behind, value] at point
  rw [positional, if_neg (by omega), neg_neg, Int.toNat_natCast, String.toList_ofList, ← padded_eq]
  exact point

/-- **What is written out** has the value of the decimal. -/
theorem decimal_positional (digits : Nat) (power : Int) : ∃ digits' power',
    Decimal (positional digits power).toList digits' power' ∧ power' ≤ 0 ∧
      (digits' : ℚ) * 10 ^ power' = digits * 10 ^ power := by
  rcases Int.lt_or_le power 0 with neg | nonneg
  · obtain ⟨places, rfl⟩ : ∃ places : Nat, power = -places := ⟨(-power).toNat, by omega⟩
    exact ⟨digits, -places, decimal_positional_neg digits (by omega), by omega, rfl⟩
  · obtain ⟨zeros, rfl⟩ := Int.eq_ofNat_of_zero_le nonneg
    refine ⟨_, 0, decimal_positional_natCast digits zeros, le_rfl, ?_⟩
    rw [zpow_zero, mul_one, zpow_natCast]
    push_cast
    exact mul_comm _ _

/-! ## Rounding decimals -/

namespace Format

variable {f : Format} {significand : Nat} {exponent : Int}

/-- What is in the neighbourhood of a number is not smaller than half the least number. -/
theorem half_least_le {x : ℚ} (number : f.Positive significand exponent)
    (holds : (f.neighbourhood significand exponent).Holds x) : 2 ^ (f.leastExponent - 1) ≤ x := by
  have one : (1 : ℚ) ≤ significand := by exact_mod_cast number.pos
  have above : 1 / 2 ≤ x / 2 ^ exponent := by
    have := f.half_le_lowerEnd significand exponent
    have := lowerEnd_le_of_holds number.pos holds
    linarith
  have least := number.least
  calc (2 : ℚ) ^ (f.leastExponent - 1) ≤ 2 ^ (exponent - 1) := zpow_le_zpow_right₀ one_le_two (by omega)
    _ = 1 / 2 * 2 ^ exponent := by rw [zpow_sub_one₀ two_ne_zero]; ring
    _ ≤ x := (le_div_iff₀ (two_zpow_pos exponent)).1 above

/-- A decimal that small is below all numbers. -/
theorem decimal_lt {digits : Nat} {power : Int} (pos : 0 < digits)
    (small : power < -(twoTo f.exponentBits + digits.log2)) :
    (digits : ℚ) * 10 ^ power < 2 ^ (-(twoTo f.exponentBits : Int)) := by
  have ten : (10 : ℚ) ^ power ≤ 2 ^ power := by
    have more : (2 : ℚ) ^ (-power) ≤ 10 ^ (-power) := zpow_le_zpow_left₀ (by omega) (by norm_num) (by norm_num)
    rw [← neg_neg power, zpow_neg, zpow_neg 2]
    exact inv_anti₀ (by positivity) more
  calc (digits : ℚ) * 10 ^ power ≤ digits * 2 ^ power := by gcongr
    _ < 2 ^ (digits.log2 + 1 : Int) * 2 ^ power := by gcongr; exact (log2_bounds pos).2
    _ = 2 ^ (digits.log2 + 1 + power) := (zpow_add₀ two_ne_zero _ _).symm
    _ ≤ 2 ^ (-(twoTo f.exponentBits : Int)) := zpow_le_zpow_right₀ one_le_two (by omega)

/-- **A decimal in the neighbourhood** of a number is rounded to its pattern. -/
theorem ofDecimal_eq (regular : f.Regular) (number : f.Positive significand exponent) {digits : Nat} {power : Int}
    (places : power ≤ 0)
    (holds : (f.neighbourhood significand exponent).Holds (digits * 10 ^ power)) (negative : Bool) :
    f.ofDecimal negative digits power = f.signed negative (f.pattern significand exponent) := by
  have least := half_least_le number holds
  have digits_pos : 0 < digits := by
    refine Nat.pos_of_ne_zero ?_
    rintro rfl
    have := two_zpow_pos (f.leastExponent - 1)
    rw [Nat.cast_zero, zero_mul] at least
    linarith
  have large : ¬ power < -(twoTo f.exponentBits + digits.log2 : Int) := fun small => by
    have below := (zpow_lt_zpow_iff_right₀ one_lt_two).1 (least.trans_lt (decimal_lt digits_pos small))
    have span := regular.span
    have eq : f.leastExponent = 1 - ((twoTo (f.exponentBits - 1) : Int) - 1) - f.fractionBits := rfl
    omega
  have value : ratio (scaleTen digits 1 (-power)) = digits * 10 ^ power := by
    rw [scaleTen_eq, ratio_scaleBy_neg]
    rfl
  rw [ofDecimal, if_neg digits_pos.ne', if_neg (by omega), if_neg large]
  have den_pos : 0 < (scaleTen digits 1 (-power)).2 := scaleBy_pos (by decide) one_pos
  have num_pos : 0 < (scaleTen digits 1 (-power)).1 := scaleBy_num_pos (by decide) digits_pos
  exact round_eq number num_pos den_pos (by rwa [Prod.mk.eta, value]) negative

/-! ## Reading -/

theorem toLower_of_isDigit {c : Char} (digit : c.isDigit) : c.toLower = c := by
  refine dif_neg fun upper => ?_
  have low : 'A'.toNat ≤ c.toNat := UInt32.le_iff_toNat_le.1 upper.1
  have high := (toNat_of_isDigit digit).2
  have : '0'.toNat + 10 < 'A'.toNat := by decide
  omega

/-- What starts with a digit is no word. -/
theorem ofList_toLower_ne {c : Char} {rest : List Char} (digit : c.isDigit) {word : String}
    (letter : Stops Char.isDigit word.toList) : String.ofList ((c :: rest).map Char.toLower) ≠ word := by
  rintro rfl
  rw [String.toList_ofList, List.map_cons, toLower_of_isDigit digit] at letter
  rw [letter c rfl] at digit
  cases digit

/-- What stands in front of a number. -/
def sign (negative : Bool) : String := if negative then "-" else ""

/-- A text of a number: a decimal or infinity, maybe with a minus sign. -/
def Numeral (text : String) : Prop :=
  ∃ negative body, text = sign negative ++ body ∧ (body = "inf" ∨ ∃ digits power, Decimal body.toList digits power)

/-- **A decimal with a sign** is rounded to a pattern of this sign. -/
theorem read_decimal {text : String} {digits : Nat} {power : Int} (decimal : Decimal text.toList digits power)
    (negative : Bool) : f.read (sign negative ++ text) = .ok (f.ofDecimal negative digits power) := by
  have read := decimal.read
  obtain ⟨c, rest, front, digit⟩ := decimal.first
  rw [front] at read
  have noWord (word : String) (letter : Stops Char.isDigit word.toList) :
      String.ofList ((c :: rest).map Char.toLower) ≠ word := ofList_toLower_ne digit letter
  have noInfinity := not_or.2 ⟨noWord "inf" (stops_cons rfl), noWord "infinity" (stops_cons rfl)⟩
  have noNan := noWord "nan" (stops_cons rfl)
  cases negative with
  | false =>
    have list : (sign false ++ text).toList = c :: rest := by
      rw [String.toList_append, front]
      rfl
    have noSign : ¬(c = '-' ∨ c = '+') := by rintro (rfl | rfl) <;> cases digit
    rw [Format.read, list]
    dsimp only
    rw [if_neg noSign, if_neg noInfinity, if_neg noNan, read, decide_eq_false (not_or.1 noSign).1]
  | true =>
    have list : (sign true ++ text).toList = '-' :: c :: rest := by
      rw [String.toList_append, front]
      rfl
    rw [Format.read, list]
    dsimp only
    rw [if_pos (show '-' = '-' ∨ '-' = '+' from .inl rfl), if_neg noInfinity, if_neg noNan, read]
    rfl

theorem read_infinity (negative : Bool) : f.read (sign negative ++ "inf") = .ok (f.signed negative f.infinity) := by
  cases negative <;> rfl

theorem decimal_zero : Decimal "0".toList 0 0 := .whole (by decide) (List.all_eq_true.1 rfl)

/-- **A pattern** that is no NaN is read back from its text. -/
theorem read_text (regular : f.Regular) {bits : Nat} (bound : bits < twoTo f.width) (noNan : f.decode bits ≠ .nan) :
    f.read (f.text bits) = .ok bits := by
  unfold Format.text
  cases decoded : f.decode bits with
  | nan => exact absurd decoded noNan
  | infinite negative =>
    rw [← decode_infinite bound decoded]
    exact read_infinity negative
  | finite negative significand exponent =>
    obtain ⟨number, finite, rfl⟩ := decode_finite bound decoded
    cases significand with
    | zero =>
      have least : exponent = f.leastExponent :=
        number.full.resolve_right (Nat.not_le_of_lt (Nat.two_pow_pos _))
      have zero : f.pattern 0 exponent = 0 := by
        rw [pattern, least, Int.sub_self, Int.toNat_zero, Nat.zero_mul]
      rw [zero]
      exact read_decimal decimal_zero negative
    | succ significand =>
      obtain ⟨digits, power, decimal, places, value⟩ := decimal_positional
        (f.neighbourhood (significand + 1) exponent).shortest.1 (f.neighbourhood (significand + 1) exponent).shortest.2
      have positive : f.Positive (significand + 1) exponent := ⟨number, significand.succ_pos, finite⟩
      have holds := shortest_holds regular positive
      rw [← value] at holds
      rw [← ofDecimal_eq regular positive places holds negative]
      exact read_decimal decimal negative

/-- A pattern that is no NaN has the text of a number. -/
theorem numeral_text {bits : Nat} (noNan : f.decode bits ≠ .nan) : Numeral (f.text bits) := by
  unfold Format.text
  cases decoded : f.decode bits with
  | nan => exact absurd decoded noNan
  | infinite negative => exact ⟨negative, "inf", rfl, .inl rfl⟩
  | finite negative significand exponent =>
    cases significand with
    | zero => exact ⟨negative, "0", rfl, .inr ⟨0, 0, decimal_zero⟩⟩
    | succ significand =>
      obtain ⟨digits, power, decimal, _⟩ := decimal_positional
        (f.neighbourhood (significand + 1) exponent).shortest.1 (f.neighbourhood (significand + 1) exponent).shortest.2
      exact ⟨negative, _, rfl, .inr ⟨digits, power, decimal⟩⟩

end Format

end WasmLens.Floating
