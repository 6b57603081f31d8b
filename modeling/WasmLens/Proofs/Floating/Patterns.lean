import WasmLens.Floating.Format

/-!
# Patterns of finite numbers

A pattern is a sign and a magnitude, and the magnitude of a finite number is its significand on top of the steps that
its exponent is above the least one. **What a pattern is decoded to gives the pattern** (`decode_finite`,
`decode_infinite`).
-/
namespace WasmLens.Floating.Format

variable (f : Format)

/-- Significand and exponent of a finite number. -/
structure Number (significand : Nat) (exponent : Int) : Prop where
  least : f.leastExponent ≤ exponent
  small : significand < twoTo (f.fractionBits + 1)
  full : exponent = f.leastExponent ∨ twoTo f.fractionBits ≤ significand

/-- The pattern of a finite number without its sign. -/
def pattern (significand : Nat) (exponent : Int) : Nat :=
  (exponent - f.leastExponent).toNat * twoTo f.fractionBits + significand

/-- A number above zero that the format has. -/
structure Positive (significand : Nat) (exponent : Int) : Prop extends f.Number significand exponent where
  pos : 0 < significand
  finite : f.pattern significand exponent < f.infinity

variable {f} {bits significand : Nat} {exponent : Int} {negative : Bool}

/-- A pattern is its sign and its magnitude. -/
theorem signed_magnitude (bound : bits < twoTo f.width) : f.signed (f.isNegative bits) (f.magnitude bits) = bits := by
  have bound : bits < 2 * f.signBit := by
    have double : twoTo f.width = 2 * f.signBit := by
      rw [signBit, width, Nat.add_assoc, Nat.add_comm]
      exact Nat.pow_succ'
    rwa [double] at bound
  rw [signed, isNegative, magnitude]
  split <;> rename_i sign
  · have sign : f.signBit ≤ bits := of_decide_eq_true sign
    rw [Nat.mod_eq_sub_mod sign, Nat.mod_eq_of_lt (by omega)]
    omega
  · exact Nat.mod_eq_of_lt (Nat.lt_of_not_le fun le => sign (decide_eq_true le))

/-- The exponent field of a magnitude has its own width. -/
theorem field_lt (f : Format) (bits : Nat) : f.magnitude bits / twoTo f.fractionBits < twoTo f.exponentBits := by
  have bound : f.magnitude bits < f.signBit := Nat.mod_lt _ (Nat.two_pow_pos _)
  have fields : f.signBit = twoTo f.fractionBits * twoTo f.exponentBits := by
    rw [signBit, Nat.mul_comm]
    exact Nat.pow_add ..
  exact Nat.div_lt_of_lt_mul (fields ▸ bound)

/-- **A finite number** gives its pattern. -/
theorem decode_finite (bound : bits < twoTo f.width) (decoded : f.decode bits = .finite negative significand exponent) :
    f.Number significand exponent ∧ f.pattern significand exponent < f.infinity ∧
      f.signed negative (f.pattern significand exponent) = bits := by
  have unit : 0 < twoTo f.fractionBits := Nat.two_pow_pos _
  have double : twoTo (f.fractionBits + 1) = 2 * twoTo f.fractionBits := Nat.pow_succ'
  have whole := Nat.div_add_mod' (f.magnitude bits) (twoTo f.fractionBits)
  have fraction_lt := Nat.mod_lt (f.magnitude bits) unit
  have field_lt := f.field_lt bits
  have signed := signed_magnitude bound
  dsimp only [decode] at decoded
  generalize f.magnitude bits / twoTo f.fractionBits = field at *
  generalize f.magnitude bits % twoTo f.fractionBits = fraction at *
  -- the pattern is the magnitude, which is below the one of infinity as its exponent field is
  suffices f.Number significand exponent ∧ f.pattern significand exponent = f.magnitude bits ∧
      f.isNegative bits = negative ∧ field ≠ twoTo f.exponentBits - 1 by
    obtain ⟨number, magnitude, rfl, finite⟩ := this
    refine ⟨number, ?_, magnitude ▸ signed⟩
    rw [magnitude, ← whole, infinity]
    have : (field + 1) * twoTo f.fractionBits ≤ (twoTo f.exponentBits - 1) * twoTo f.fractionBits :=
      Nat.mul_le_mul_right _ (by omega)
    rw [Nat.add_mul] at this
    omega
  split at decoded
  · split at decoded <;> cases decoded
  · rename_i finite
    split at decoded <;> cases decoded
    · rename_i subnormal
      refine ⟨⟨Int.le_refl _, by omega, .inl rfl⟩, ?_, rfl, finite⟩
      rw [pattern, Int.sub_self, ← whole, subnormal]
      rfl
    · rename_i normal
      refine ⟨⟨by omega, by omega, .inr (Nat.le_add_right ..)⟩, ?_, rfl, finite⟩
      obtain ⟨steps, rfl⟩ := Nat.exists_eq_succ_of_ne_zero normal
      have above : (f.leastExponent + (steps.succ - 1 : Nat) - f.leastExponent).toNat = steps := by omega
      rw [pattern, above, ← whole, Nat.succ_mul, Nat.add_assoc]

theorem decode_infinite (bound : bits < twoTo f.width) (decoded : f.decode bits = .infinite negative) :
    f.signed negative f.infinity = bits := by
  have whole := Nat.div_add_mod' (f.magnitude bits) (twoTo f.fractionBits)
  dsimp only [decode] at decoded
  split at decoded
  · rename_i field
    split at decoded <;> cases decoded
    rename_i fraction
    rw [field, fraction] at whole
    rw [infinity, ← Nat.add_zero (_ * _), whole, signed_magnitude bound]
  · split at decoded <;> cases decoded

end WasmLens.Floating.Format
