/-!
# Runs of characters, and digits

A reader takes the characters of one kind from the front of a text, up to one that is of another kind. What a number is
written as is such a run: its decimal digits, of which only zero has a zero in front.
-/
namespace WasmLens.Text

variable {p : Char → Bool} {run rest : List Char}

/-- A text that does not go on with a character of some kind. -/
def Stops (p : Char → Bool) (rest : List Char) : Prop := ∀ c ∈ rest.head?, p c = false

theorem stops_nil : Stops p [] := nofun

theorem stops_cons {c : Char} (other : p c = false) : Stops p (c :: rest) := by
  rintro _ ⟨⟩
  exact other

theorem Stops.takeWhile (stops : Stops p rest) : rest.takeWhile p = [] := by
  cases rest with
  | nil => rfl
  | cons c rest => rw [List.takeWhile_cons, stops c rfl, if_neg Bool.false_ne_true]

theorem Stops.dropWhile (stops : Stops p rest) : rest.dropWhile p = rest := by
  cases rest with
  | nil => rfl
  | cons c rest => rw [List.dropWhile_cons, stops c rfl, if_neg Bool.false_ne_true]

/-- **A run is taken** as a whole, and nothing behind it. -/
theorem takeWhile_run (all : ∀ c ∈ run, p c) (stops : Stops p rest) : (run ++ rest).takeWhile p = run := by
  rw [List.takeWhile_append_of_pos all, stops.takeWhile, List.append_nil]

theorem dropWhile_run (all : ∀ c ∈ run, p c) (stops : Stops p rest) : (run ++ rest).dropWhile p = rest := by
  rw [List.dropWhile_append_of_pos all, stops.dropWhile]

/-! ## Digits -/

theorem isDigit_of_mem_digits {n : Nat} : ∀ c ∈ Nat.toDigits 10 n, c.isDigit :=
  fun _ mem => Nat.isDigit_of_mem_toDigits (by decide) (by decide) mem

/-- A digit is one of ten characters. -/
theorem toNat_of_isDigit {c : Char} (digit : c.isDigit) : '0'.toNat ≤ c.toNat ∧ c.toNat < '0'.toNat + 10 := by
  rw [Char.isDigit_iff_toNat] at digit
  exact ⟨digit.1, Nat.lt_succ_of_le digit.2⟩

/-- **Zero stands in front** of no other number. -/
theorem head_toDigits : ∀ n : Nat, ∃ c cs, Nat.toDigits 10 n = c :: cs ∧ c.isDigit ∧ (c = '0' → n = 0 ∧ cs = [])
  | n => by
    rcases Nat.lt_or_ge n 10 with small | large
    · have single := Nat.toDigits_of_lt_base small
      exact ⟨n.digitChar, [], single, isDigit_of_mem_digits _ (single ▸ List.mem_cons_self),
        fun zero => ⟨Nat.digitChar_eq_zero.1 zero, rfl⟩⟩
    · obtain ⟨c, cs, front, digit, zero⟩ := head_toDigits (n / 10)
      refine ⟨c, cs ++ [(n % 10).digitChar], ?_, digit, fun isZero => ?_⟩
      · rw [Nat.toDigits_of_base_le (by decide) large, front]
        rfl
      · have := (zero isZero).1
        omega

end WasmLens.Text
