import WasmLens.Proofs.Floating.Rounding

/-!
# The search for a decimal

Digits are looked for on coarse grids first and then on finer ones. A grid that is as fine as a quarter of the last
place has a multiple in the neighbourhood, and the search gets that far: **what it stops at is in the neighbourhood**
(`shortest_holds`).
-/
namespace WasmLens.Floating

namespace Neighbourhood

variable {n : Neighbourhood} {digits : Nat} {power : Int}

/-! ## Grids -/

/-- The check whether a decimal reads back is exact. -/
theorem contains_iff : n.contains digits power ↔ n.Holds (digits * 10 ^ power) := by
  have value : ratio (scale (scaleTen digits 1 (-power)).1 (scaleTen digits 1 (-power)).2 n.exponent) =
      digits * 10 ^ power / 2 ^ n.exponent := by
    rw [scale_eq, ratio_scaleBy, Prod.mk.eta, scaleTen_eq, ratio_scaleBy_neg]
    rfl
  have pos : 0 < (scale (scaleTen digits 1 (-power)).1 (scaleTen digits 1 (-power)).2 n.exponent).2 :=
    scaleBy_pos two_pos (scaleBy_pos (by decide) one_pos)
  rw [Holds, ← value, ← le_ratio pos, ← ratio_le pos, ← lt_ratio pos, ← ratio_lt pos, contains]
  dsimp only
  split <;> simp only [decide_eq_true_eq]

theorem contains_of_onGrid (found : n.onGrid power = some digits) : n.contains digits power := by
  unfold onGrid at found
  dsimp only at found
  split at found
  · rename_i upper
    cases found
    exact (Bool.and_eq_true_iff.1 upper).1
  · split at found
    · rename_i lower
      cases found
      exact lower
    · cases found

theorem holds_of_lt {x : ℚ} (low : n.low < x / 2 ^ n.exponent) (high : x / 2 ^ n.exponent < n.high) : n.Holds x := by
  unfold Holds
  split
  · exact ⟨low.le, high.le⟩
  · exact ⟨low, high⟩

/-- The multiple below the number, on a grid that is fine enough. -/
theorem holds_below {below : Nat} (low : n.low < n.mid) (high : n.mid < n.high)
    (fine : (10 : ℚ) ^ power ≤ 2 ^ n.exponent)
    (lower : below * 10 ^ power ≤ n.mid * (2 : ℚ) ^ n.exponent)
    (upper : n.mid * (2 : ℚ) ^ n.exponent < (below + 1) * 10 ^ power) : n.Holds (below * 10 ^ power) := by
  have unit := Format.two_zpow_pos n.exponent
  have low : (n.low : ℚ) + 1 ≤ n.mid := by exact_mod_cast low
  have high : (n.mid : ℚ) < n.high := by exact_mod_cast high
  refine holds_of_lt ?_ ?_
  · rw [lt_div_iff₀ unit]
    calc n.low * (2 : ℚ) ^ n.exponent ≤ (n.mid - 1) * 2 ^ n.exponent := by gcongr; linarith
      _ = n.mid * 2 ^ n.exponent - 2 ^ n.exponent := by ring
      _ < (below + 1) * 10 ^ power - 10 ^ power := by linarith
      _ = below * 10 ^ power := by ring
  · exact ((div_le_iff₀ unit).2 lower).trans_lt high

/-- **A fine grid** has a decimal in reach. -/
theorem onGrid_isSome (low : n.low < n.mid) (high : n.mid < n.high) (fine : (10 : ℚ) ^ power ≤ 2 ^ n.exponent) :
    (n.onGrid power).isSome := by
  have ten : (0 : ℚ) < 10 ^ power := by positivity
  have value : ratio (scaleTen (scale n.mid 1 (-n.exponent)).1 (scale n.mid 1 (-n.exponent)).2 power) =
      n.mid * 2 ^ n.exponent / 10 ^ power := by
    rw [scaleTen_eq, ratio_scaleBy, Prod.mk.eta, scale_eq, ratio_scaleBy_neg]
    rfl
  have pos : 0 < (scaleTen (scale n.mid 1 (-n.exponent)).1 (scale n.mid 1 (-n.exponent)).2 power).2 :=
    scaleBy_pos (by decide) (scaleBy_pos two_pos one_pos)
  have lower : n.contains ((scaleTen (scale n.mid 1 (-n.exponent)).1 (scale n.mid 1 (-n.exponent)).2 power).1 /
      (scaleTen (scale n.mid 1 (-n.exponent)).1 (scale n.mid 1 (-n.exponent)).2 power).2) power := by
    refine contains_iff.2 (holds_below low high fine ?_ ?_)
    · rw [← le_div_iff₀ ten, ← value, ← le_ratio pos]
      exact Nat.div_mul_le_self _ _
    · rw [← div_lt_iff₀ ten, ← value, ← Nat.cast_add_one, ← ratio_lt pos]
      exact Nat.lt_mul_of_div_lt (Nat.lt_succ_self _) pos
  unfold onGrid
  dsimp only
  rw [lower]
  split <;> rfl

/-! ## The search -/

/-- The search stops at the first grid that has a decimal in reach. -/
theorem shortestFrom_contains : ∀ {steps : Nat} {power : Int}, (∃ k < steps, (n.onGrid (power - k)).isSome) →
    n.contains (n.shortestFrom steps power).1 (n.shortestFrom steps power).2
  | 0, _, reach => absurd reach.choose_spec.1 (Nat.not_lt_zero _)
  | steps + 1, power, reach => by
    rw [shortestFrom]
    cases found : n.onGrid power with
    | some digits => exact contains_of_onGrid found
    | none =>
      obtain ⟨k, inRange, there⟩ := reach
      cases k with
      | zero =>
        rw [Nat.cast_zero, Int.sub_zero, found] at there
        cases there
      | succ k =>
        refine shortestFrom_contains ⟨k, Nat.lt_of_succ_lt_succ inRange, ?_⟩
        rwa [Int.sub_sub, Int.add_comm]

/-! ## The last grid -/

/-- `30103 / 100000` is little more than the decimal logarithm of two. -/
theorem ten_zpow_le_two_zpow {leading : Int} (low : -2000 ≤ leading) (high : leading ≤ 3000) :
    (10 : ℚ) ^ (leading * 30103 / 100000) ≤ 2 ^ (leading + 11) := by
  obtain ⟨log, log_eq⟩ : ∃ log, log = leading * 30103 / 100000 := ⟨_, rfl⟩
  rw [← log_eq]
  have log_le : 100000 * log ≤ leading * 30103 := by omega
  rcases Int.le_total 0 log with nonneg | neg
  · -- `10 ^ 3` is less than `2 ^ 10`
    refine le_of_pow_le_pow_left₀ (n := 3) (by decide) (by positivity) ?_
    calc ((10 : ℚ) ^ log) ^ 3 = (10 ^ 3) ^ log := by rw [← zpow_natCast, zpow_comm, zpow_natCast]
      _ ≤ (2 ^ 10) ^ log := zpow_le_zpow_left₀ nonneg (by norm_num) (by norm_num)
      _ = 2 ^ (10 * log) := by rw [zpow_mul]; rfl
      _ ≤ 2 ^ ((leading + 11) * 3) := zpow_le_zpow_right₀ one_le_two (by omega)
      _ = (2 ^ (leading + 11)) ^ 3 := by rw [zpow_mul]; rfl
  · -- and `10 ^ 13` is more than `2 ^ 43`
    have more : ((2 : ℚ) ^ 43) ^ (-log) ≤ (10 ^ 13) ^ (-log) :=
      zpow_le_zpow_left₀ (Int.neg_nonneg_of_nonpos neg) (by norm_num) (by norm_num)
    refine le_of_pow_le_pow_left₀ (n := 13) (by decide) (by positivity) ?_
    calc ((10 : ℚ) ^ log) ^ 13 = ((10 ^ 13) ^ (-log))⁻¹ := by
          rw [zpow_neg, inv_inv, ← zpow_natCast, zpow_comm, zpow_natCast]
      _ ≤ ((2 ^ 43) ^ (-log))⁻¹ := inv_anti₀ (by positivity) more
      _ = 2 ^ (43 * log) := by rw [zpow_neg, inv_inv, zpow_mul]; rfl
      _ ≤ 2 ^ ((leading + 11) * 13) := zpow_le_zpow_right₀ one_le_two (by omega)
      _ = (2 ^ (leading + 11)) ^ 13 := by rw [zpow_mul]; rfl

end Neighbourhood

namespace Format

variable {f : Format} {significand : Nat} {exponent : Int}

/-- Formats whose numbers are within the range that the search is made for. -/
structure Regular (f : Format) : Prop where
  fraction : f.fractionBits ≤ 52
  range : f.exponentBits ≤ 11
  span : twoTo (f.exponentBits - 1) + f.fractionBits ≤ twoTo f.exponentBits

theorem regular_binary32 : binary32.Regular := ⟨by decide, by decide, by decide⟩

theorem regular_binary64 : binary64.Regular := ⟨by decide, by decide, by decide⟩

theorem Regular.leastExponent (regular : f.Regular) : -1074 ≤ f.leastExponent ∧ f.leastExponent ≤ 1 := by
  have range : twoTo (f.exponentBits - 1) ≤ twoTo 10 :=
    Nat.pow_le_pow_right two_pos (by have := regular.range; omega)
  have pos : 0 < twoTo (f.exponentBits - 1) := Nat.two_pow_pos _
  have fraction := regular.fraction
  have eq : f.leastExponent = 1 - ((twoTo (f.exponentBits - 1) : Int) - 1) - f.fractionBits := rfl
  rw [eq]
  generalize twoTo (f.exponentBits - 1) = half at *
  have : twoTo 10 = 1024 := rfl
  omega

theorem Regular.exponent_le (regular : f.Regular) (number : f.Positive significand exponent) : exponent ≤ 2048 := by
  have finite := number.finite
  have steps : (exponent - f.leastExponent).toNat < twoTo f.exponentBits - 1 := by
    refine Nat.lt_of_mul_lt_mul_right (a := twoTo f.fractionBits) ?_
    rw [pattern, infinity] at finite
    omega
  have range : twoTo f.exponentBits ≤ twoTo 11 := Nat.pow_le_pow_right two_pos regular.range
  have := regular.leastExponent
  have : twoTo 11 = 2048 := rfl
  omega

theorem Regular.log2_mid (regular : f.Regular) (number : f.Positive significand exponent) :
    (f.neighbourhood significand exponent).mid.log2 ≤ 54 := by
  have small : significand < twoTo 53 :=
    number.small.trans_le (Nat.pow_le_pow_right two_pos (by have := regular.fraction; omega))
  have mid : (f.neighbourhood significand exponent).mid = 4 * significand := rfl
  have pos := number.pos
  rw [mid]
  refine Nat.le_of_lt_succ ((Nat.log2_lt (by omega)).2 ?_)
  have : twoTo 53 * 4 = 2 ^ Nat.succ 54 := rfl
  omega

/-- **The decimal that the search stops at** is in the neighbourhood of the number. -/
theorem shortest_holds (regular : f.Regular) (number : f.Positive significand exponent) :
    (f.neighbourhood significand exponent).Holds ((f.neighbourhood significand exponent).shortest.1 *
      10 ^ (f.neighbourhood significand exponent).shortest.2) := by
  have quarter : (f.neighbourhood significand exponent).exponent = exponent - 2 := rfl
  have pos := number.pos
  have bits := regular.log2_mid number
  have low := regular.leastExponent.1
  have least := number.least
  have high := regular.exponent_le number
  obtain ⟨leading, leading_eq⟩ : ∃ leading : Int, leading = ((f.neighbourhood significand exponent).mid.log2 : Int) +
      (f.neighbourhood significand exponent).exponent + 1 := ⟨_, rfl⟩
  have fine : (10 : ℚ) ^ (leading * 30103 / 100000 + 1 - (21 : Nat)) ≤
      2 ^ (f.neighbourhood significand exponent).exponent := by
    have last : leading * 30103 / 100000 + 1 - (21 : Nat) = leading * 30103 / 100000 - 20 := by omega
    calc (10 : ℚ) ^ (leading * 30103 / 100000 + 1 - (21 : Nat)) = 10 ^ (leading * 30103 / 100000) / 10 ^ 20 := by
          rw [last, zpow_sub₀ (by norm_num)]
          rfl
      _ ≤ 2 ^ (leading + 11) / 2 ^ 66 := by
          gcongr
          · exact Neighbourhood.ten_zpow_le_two_zpow (by omega) (by omega)
          · norm_num
      _ = 2 ^ (leading + 11 - 66) := by
          rw [zpow_sub₀ two_ne_zero]
          rfl
      _ ≤ 2 ^ (f.neighbourhood significand exponent).exponent := zpow_le_zpow_right₀ one_le_two (by omega)
  rw [← Neighbourhood.contains_iff, Neighbourhood.shortest, ← leading_eq]
  refine Neighbourhood.shortestFrom_contains ⟨21, by decide, Neighbourhood.onGrid_isSome ?_ ?_ fine⟩
  · show 4 * significand - (if _ then 1 else 2) < 4 * significand
    split <;> omega
  · show 4 * significand < 4 * significand + 2
    omega

end Format

end WasmLens.Floating
