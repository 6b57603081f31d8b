import Mathlib.Algebra.Order.Field.Power
import Mathlib.Algebra.Order.Field.Rat
import Mathlib.Data.Rat.Cast.Order
import Mathlib.Tactic.FieldSimp
import Mathlib.Tactic.Linarith
import Mathlib.Tactic.NormNum
import Mathlib.Tactic.Positivity
import Mathlib.Tactic.Ring
import WasmLens.Floating.Decimal
import WasmLens.Proofs.Floating.Patterns

/-!
# Rounding to the pattern of a number

A quotient of naturals is rounded to a pattern through an exponent and a whole significand. **Whatever lies in the
neighbourhood of a finite number is rounded to the pattern of this number** (`round_eq`), also where the neighbourhood
reaches into the binade below.
-/
namespace WasmLens.Floating

/-! ## Quotients -/

/-- A numerator and a denominator as the number that they stand for. -/
def ratio (p : Nat × Nat) : ℚ := p.1 / p.2

/-- A quotient over a power of a base. -/
def scaleBy (base num den : Nat) (exponent : Int) : Nat × Nat :=
  if 0 ≤ exponent then (num, den * base ^ exponent.toNat) else (num * base ^ (-exponent).toNat, den)

theorem scale_eq (num den : Nat) (exponent : Int) : scale num den exponent = scaleBy 2 num den exponent := rfl

theorem scaleTen_eq (num den : Nat) (exponent : Int) : scaleTen num den exponent = scaleBy 10 num den exponent := rfl

section

variable {base num den : Nat} {exponent : Int}

theorem scaleBy_pos (base_pos : 0 < base) (den_pos : 0 < den) : 0 < (scaleBy base num den exponent).2 := by
  unfold scaleBy
  split
  · exact Nat.mul_pos den_pos (Nat.pow_pos base_pos)
  · exact den_pos

theorem scaleBy_num_pos (base_pos : 0 < base) (num_pos : 0 < num) : 0 < (scaleBy base num den exponent).1 := by
  unfold scaleBy
  split
  · exact num_pos
  · exact Nat.mul_pos num_pos (Nat.pow_pos base_pos)

theorem ratio_scaleBy :
    ratio (scaleBy base num den exponent) = ratio (num, den) / (base : ℚ) ^ exponent := by
  unfold scaleBy ratio
  split <;> rename_i sign
  · obtain ⟨n, rfl⟩ := Int.eq_ofNat_of_zero_le sign
    rw [Int.toNat_natCast, zpow_natCast, div_div]
    push_cast
    rfl
  · obtain ⟨n, rfl⟩ : ∃ n : Nat, exponent = -n := ⟨(-exponent).toNat, by omega⟩
    rw [neg_neg, Int.toNat_natCast, zpow_neg, zpow_natCast, div_inv_eq_mul, div_mul_eq_mul_div]
    push_cast
    rfl

/-- A number times a power of a base. -/
theorem ratio_scaleBy_neg : ratio (scaleBy base num 1 (-exponent)) = num * (base : ℚ) ^ exponent := by
  rw [ratio_scaleBy, ratio, Nat.cast_one, div_one, zpow_neg, div_inv_eq_mul]

end

theorem le_ratio {p : Nat × Nat} {k : Nat} (pos : 0 < p.2) : k * p.2 ≤ p.1 ↔ (k : ℚ) ≤ ratio p := by
  rw [ratio, le_div_iff₀ (by exact_mod_cast pos)]
  exact_mod_cast Iff.rfl

theorem ratio_le {p : Nat × Nat} {k : Nat} (pos : 0 < p.2) : p.1 ≤ k * p.2 ↔ ratio p ≤ k := by
  rw [ratio, div_le_iff₀ (by exact_mod_cast pos)]
  exact_mod_cast Iff.rfl

theorem lt_ratio {p : Nat × Nat} {k : Nat} (pos : 0 < p.2) : k * p.2 < p.1 ↔ (k : ℚ) < ratio p := by
  rw [← not_le, ratio_le pos, not_le]

theorem ratio_lt {p : Nat × Nat} {k : Nat} (pos : 0 < p.2) : p.1 < k * p.2 ↔ ratio p < k := by
  rw [← not_le, le_ratio pos, not_le]

/-! ## Whole significands -/

/-- A number that is rounded to a natural one: it is less than a half away from it, or a half from an even one. -/
def Near (x : ℚ) (k : Nat) : Prop := |x - k| < 1 / 2 ∨ |x - k| = 1 / 2 ∧ k % 2 = 0

theorem Near.bounds {x : ℚ} {k : Nat} (near : Near x k) : k - 1 / 2 ≤ x ∧ x ≤ k + 1 / 2 := by
  have within : |x - k| ≤ 1 / 2 := near.elim le_of_lt fun half => half.1.le
  have := abs_le.1 within
  constructor <;> linarith

/-- Half way between two numbers, only the even one is near. -/
theorem Near.even {x : ℚ} {k : Nat} (near : Near x k) (half : |x - k| = 1 / 2) : k % 2 = 0 :=
  near.elim (fun less => absurd half less.ne) And.right

theorem ratio_eq_div_add_mod {num den : Nat} (pos : 0 < den) :
    ratio (num, den) = (num / den : Nat) + ratio (num % den, den) := by
  have den_pos : (0 : ℚ) < den := by exact_mod_cast pos
  have whole : (num : ℚ) = den * (num / den : Nat) + (num % den : Nat) := by
    exact_mod_cast (Nat.div_add_mod num den).symm
  rw [ratio, ratio, whole]
  field_simp

theorem two_mul_lt_iff {n den : Nat} (pos : 0 < den) : 2 * n < den ↔ ratio (n, den) < 1 / 2 := by
  have den_pos : (0 : ℚ) < den := by exact_mod_cast pos
  rw [ratio, div_lt_div_iff₀ den_pos two_pos, one_mul, mul_comm]
  exact_mod_cast Iff.rfl

theorem two_mul_eq_iff {n den : Nat} (pos : 0 < den) : 2 * n = den ↔ ratio (n, den) = 1 / 2 := by
  have den_pos : (0 : ℚ) < den := by exact_mod_cast pos
  rw [ratio, div_eq_div_iff den_pos.ne' two_ne_zero, one_mul, mul_comm]
  exact_mod_cast Iff.rfl

/-- A whole part and a fraction are near to the whole part, or to the number above it from half way on. -/
theorem Near.whole {quotient k : Nat} {fraction : ℚ} (near : Near (quotient + fraction) k) (none : 0 ≤ fraction)
    (part : fraction < 1) :
    (if fraction < 1 / 2 ∨ fraction = 1 / 2 ∧ quotient % 2 = 0 then quotient else quotient + 1) = k := by
  obtain ⟨above, below⟩ := near.bounds
  rcases lt_trichotomy fraction (1 / 2) with less | half | more
  · have low : (quotient : ℚ) < (k + 1 : Nat) := by push_cast; linarith
    have high : (k : ℚ) < (quotient + 1 : Nat) := by push_cast; linarith
    rw [Nat.cast_lt] at low high
    rw [if_pos (.inl less)]
    omega
  · have low : (quotient : ℚ) ≤ k := by linarith
    have high : (k : ℚ) ≤ (quotient + 1 : Nat) := by push_cast; linarith
    rw [Nat.cast_le] at low high
    -- the even one of the two
    obtain rfl | rfl : k = quotient ∨ k = quotient + 1 := by omega
    · have even := near.even (by rw [half, add_sub_cancel_left, abs_of_pos one_half_pos])
      rw [if_pos (.inr ⟨half, even⟩)]
    · have distance : (quotient : ℚ) + fraction - (quotient + 1 : Nat) = -(1 / 2) := by
        rw [half]
        push_cast
        ring
      have even := near.even (by rw [distance, abs_neg, abs_of_pos one_half_pos])
      have odd : quotient % 2 ≠ 0 := by omega
      rw [if_neg (not_or.2 ⟨half.not_lt, fun even => odd even.2⟩)]
  · have low : (quotient : ℚ) < k := by linarith
    have high : (k : ℚ) < (quotient + 2 : Nat) := by push_cast; linarith
    rw [Nat.cast_lt] at low high
    rw [if_neg (not_or.2 ⟨more.not_gt, fun half => more.ne' half.1⟩)]
    omega

/-- **Rounding a quotient** gives the natural number that it is near to. -/
theorem roundHalfEven_eq {num den k : Nat} (pos : 0 < den) (near : Near (ratio (num, den)) k) :
    roundHalfEven num den = k := by
  have den_pos : (0 : ℚ) < den := by exact_mod_cast pos
  have none : 0 ≤ ratio (num % den, den) := div_nonneg (Nat.cast_nonneg _) den_pos.le
  have part : ratio (num % den, den) < 1 := by
    rw [ratio, div_lt_one den_pos]
    exact_mod_cast Nat.mod_lt num pos
  rw [ratio_eq_div_add_mod pos] at near
  simp only [roundHalfEven, two_mul_lt_iff pos, two_mul_eq_iff pos]
  exact near.whole none part

/-! ## Exponents -/

namespace Format

variable (f : Format)

/-- The exponent of the last place of a number: the significand has all its bits, or the exponent is the least one. -/
structure LastPlace (x : ℚ) (exponent : Int) : Prop where
  least : f.leastExponent ≤ exponent
  small : x < 2 ^ (f.fractionBits + 1) * 2 ^ exponent
  full : exponent = f.leastExponent ∨ 2 ^ f.fractionBits * 2 ^ exponent ≤ x

variable {f}

theorem two_zpow_pos (e : Int) : (0 : ℚ) < 2 ^ e := zpow_pos two_pos e

theorem cast_twoTo (n : Nat) : (twoTo n : ℚ) = 2 ^ n := Nat.cast_pow 2 n

/-- A number between the powers of two around it. -/
theorem log2_bounds {n : Nat} (pos : 0 < n) : (2 : ℚ) ^ (n.log2 : Int) ≤ n ∧ (n : ℚ) < 2 ^ (n.log2 + 1 : Int) := by
  constructor
  · rw [zpow_natCast]
    exact_mod_cast Nat.log2_self_le pos.ne'
  · have : n < 2 ^ (n.log2 + 1) := Nat.lt_log2_self
    exact_mod_cast this

/-- The logarithms of numerator and denominator give the one of the quotient, up to one. -/
theorem ratio_bounds {num den : Nat} (num_pos : 0 < num) (den_pos : 0 < den) :
    (2 : ℚ) ^ ((num.log2 : Int) - den.log2 - 1) ≤ ratio (num, den) ∧
      ratio (num, den) < (2 : ℚ) ^ ((num.log2 : Int) - den.log2 + 1) := by
  have den_pos : (0 : ℚ) < den := by exact_mod_cast den_pos
  obtain ⟨num_low, num_high⟩ := log2_bounds num_pos
  obtain ⟨den_low, den_high⟩ := log2_bounds (Nat.cast_pos.1 den_pos)
  constructor
  · rw [ratio, le_div_iff₀ den_pos]
    calc (2 : ℚ) ^ ((num.log2 : Int) - den.log2 - 1) * den
        ≤ 2 ^ ((num.log2 : Int) - den.log2 - 1) * 2 ^ (den.log2 + 1 : Int) := by gcongr
      _ = 2 ^ (num.log2 : Int) := by rw [← zpow_add₀ two_ne_zero]; congr 1; ring
      _ ≤ num := num_low
  · rw [ratio, div_lt_iff₀ den_pos]
    calc (num : ℚ) < 2 ^ (num.log2 + 1 : Int) := num_high
      _ = 2 ^ ((num.log2 : Int) - den.log2 + 1) * 2 ^ (den.log2 : Int) := by
        rw [← zpow_add₀ two_ne_zero]; congr 1; ring
      _ ≤ 2 ^ ((num.log2 : Int) - den.log2 + 1) * den := by gcongr

theorem lastPlace_max {x : ℚ} {e : Int} (low : 2 ^ f.fractionBits * 2 ^ e ≤ x)
    (high : x < 2 ^ (f.fractionBits + 1) * 2 ^ e) : f.LastPlace x (max f.leastExponent e) where
  least := le_max_left ..
  small := high.trans_le (by gcongr; exacts [one_le_two, le_max_right ..])
  full := by
    rcases max_choice f.leastExponent e with least | full
    · exact .inl least
    · exact .inr (by rwa [full])

theorem pow_mul_zpow (n : Nat) (e : Int) : (2 : ℚ) ^ n * 2 ^ e = 2 ^ (n + e) := by
  rw [zpow_add₀ two_ne_zero, zpow_natCast]

/-- **The exponent of a quotient** is the one of its last place. -/
theorem lastPlace_exponentOf {num den : Nat} (num_pos : 0 < num) (den_pos : 0 < den) :
    f.LastPlace (ratio (num, den)) (f.exponentOf num den) := by
  obtain ⟨low, high⟩ := ratio_bounds num_pos den_pos
  have guessed : (scale num den (num.log2 - den.log2 - f.fractionBits)).1 <
      (scale num den (num.log2 - den.log2 - f.fractionBits)).2 * twoTo f.fractionBits ↔
        ratio (num, den) < 2 ^ ((num.log2 : Int) - den.log2) := by
    rw [Nat.mul_comm, scale_eq, ratio_lt (scaleBy_pos two_pos den_pos), ratio_scaleBy,
      div_lt_iff₀ (by positivity), cast_twoTo, Nat.cast_ofNat, pow_mul_zpow, add_sub_cancel]
  simp only [exponentOf, guessed]
  refine lastPlace_max ?_ ?_ <;> rw [pow_mul_zpow] <;> split
  · exact le_of_eq_of_le (by congr 1; ring) low
  · rename_i enough
    exact le_of_eq_of_le (by congr 1; ring) (not_lt.1 enough)
  · rename_i less
    exact less.trans_eq (by congr 1; push_cast; ring)
  · exact high.trans_eq (by congr 1; push_cast; ring)

end Format

/-! ## Neighbourhoods -/

/-- A number in a neighbourhood. -/
def Neighbourhood.Holds (n : Neighbourhood) (x : ℚ) : Prop :=
  if n.closed then n.low ≤ x / 2 ^ n.exponent ∧ x / 2 ^ n.exponent ≤ n.high
  else n.low < x / 2 ^ n.exponent ∧ x / 2 ^ n.exponent < n.high

namespace Format

variable {f : Format} {significand : Nat} {exponent : Int} {x : ℚ}

theorem quarters (x : ℚ) (e : Int) : x / 2 ^ (e - 2) = 4 * (x / 2 ^ e) := by
  rw [zpow_sub₀ two_ne_zero]
  field_simp
  norm_num

/-- The lower end of a neighbourhood in places of the number: it is nearer below the first number of a binade. -/
def lowerEnd (f : Format) (significand : Nat) (exponent : Int) : ℚ :=
  significand - if significand = twoTo f.fractionBits ∧ exponent ≠ f.leastExponent then 1 / 4 else 1 / 2

theorem holds_iff (pos : 0 < significand) : (f.neighbourhood significand exponent).Holds x ↔
    if significand % 2 = 0 then
      f.lowerEnd significand exponent ≤ x / 2 ^ exponent ∧ x / 2 ^ exponent ≤ significand + 1 / 2
    else f.lowerEnd significand exponent < x / 2 ^ exponent ∧ x / 2 ^ exponent < significand + 1 / 2 := by
  have low : ((f.neighbourhood significand exponent).low : ℚ) = 4 * f.lowerEnd significand exponent := by
    unfold neighbourhood lowerEnd
    dsimp only
    split <;> rw [Nat.cast_sub (by omega)] <;> push_cast <;> ring
  have high : ((f.neighbourhood significand exponent).high : ℚ) = 4 * (significand + 1 / 2) := by
    rw [neighbourhood]
    push_cast
    ring
  have closed : (f.neighbourhood significand exponent).closed = decide (significand % 2 = 0) := rfl
  have quarter : (f.neighbourhood significand exponent).exponent = exponent - 2 := rfl
  simp only [Neighbourhood.Holds, closed, decide_eq_true_eq, quarter, quarters, low, high,
    mul_le_mul_iff_right₀ (four_pos : (0 : ℚ) < 4), mul_lt_mul_iff_right₀ (four_pos : (0 : ℚ) < 4)]

theorem half_le_lowerEnd (f : Format) (significand : Nat) (exponent : Int) :
    (significand : ℚ) - 1 / 2 ≤ f.lowerEnd significand exponent := by
  unfold lowerEnd
  split <;> linarith

/-- What is in the neighbourhood of a number is near to its significand. -/
theorem near_of_holds (pos : 0 < significand) (holds : (f.neighbourhood significand exponent).Holds x) :
    Near (x / 2 ^ exponent) significand := by
  have half := f.half_le_lowerEnd significand exponent
  rw [holds_iff pos] at holds
  split at holds <;> rename_i parity <;> obtain ⟨above, below⟩ := holds
  · have within : |x / 2 ^ exponent - significand| ≤ 1 / 2 := abs_le.2 ⟨by linarith, by linarith⟩
    exact within.lt_or_eq.imp_right fun half => ⟨half, parity⟩
  · exact .inl (abs_lt.2 ⟨by linarith, by linarith⟩)

theorem lowerEnd_le_of_holds (pos : 0 < significand) (holds : (f.neighbourhood significand exponent).Holds x) :
    f.lowerEnd significand exponent ≤ x / 2 ^ exponent := by
  rw [holds_iff pos] at holds
  split at holds
  · exact holds.1
  · exact holds.1.le

/-- What is in the neighbourhood of a number is below the binade above it. -/
theorem lastPlace_le (number : f.Positive significand exponent)
    (holds : (f.neighbourhood significand exponent).Holds x) {place : Int} (last : f.LastPlace x place) :
    place ≤ exponent := by
  by_contra higher
  have higher := not_le.1 higher
  have below := (near_of_holds number.pos holds).bounds.2
  have full := last.full.resolve_left (number.least.trans_lt higher).ne'
  have small : (significand : ℚ) + 1 ≤ 2 * 2 ^ f.fractionBits := by
    rw [← pow_succ']
    exact_mod_cast number.small
  have : 2 ^ f.fractionBits * 2 ≤ x / 2 ^ exponent := by
    rw [le_div_iff₀ (two_zpow_pos exponent)]
    calc (2 : ℚ) ^ f.fractionBits * 2 * 2 ^ exponent = 2 ^ f.fractionBits * 2 ^ (exponent + 1) := by
          rw [zpow_add_one₀ two_ne_zero]; ring
      _ ≤ 2 ^ f.fractionBits * 2 ^ place := by gcongr; exacts [one_le_two, higher]
      _ ≤ x := full
  linarith

/-- What has a finer last place than a number in its neighbourhood is just below the first number of a binade. -/
theorem first_of_lastPlace_lt (number : f.Positive significand exponent)
    (holds : (f.neighbourhood significand exponent).Holds x) {k : Nat} (last : f.LastPlace x (exponent - (k + 1))) :
    k = 0 ∧ significand = twoTo f.fractionBits ∧ significand - 1 / 4 ≤ x / 2 ^ exponent ∧
      x / 2 ^ exponent < significand := by
  have above := lowerEnd_le_of_holds number.pos holds
  have one : (1 : ℚ) ≤ 2 ^ f.fractionBits := one_le_pow₀ one_le_two
  have noLeast : exponent ≠ f.leastExponent := by
    have := last.least
    omega
  have full : (2 : ℚ) ^ f.fractionBits ≤ significand := by
    have := number.full.resolve_left noLeast
    exact_mod_cast this
  have half := f.half_le_lowerEnd significand exponent
  have small : 2 ^ k * (x / 2 ^ exponent) < 2 ^ f.fractionBits := by
    have finer : x / 2 ^ (exponent - (k + 1)) = 2 * 2 ^ k * (x / 2 ^ exponent) := by
      rw [zpow_sub₀ two_ne_zero, zpow_add_one₀ two_ne_zero, zpow_natCast]
      field_simp
    have := (div_lt_iff₀ (two_zpow_pos _)).2 last.small
    rw [finer, pow_succ] at this
    linarith
  have grows {l : Nat} (least : l ≤ k) : 2 ^ l * (x / 2 ^ exponent) ≤ 2 ^ k * (x / 2 ^ exponent) := by
    gcongr
    · linarith
    · exact one_le_two
  have first : significand = twoTo f.fractionBits := by
    by_contra other
    have more : (2 : ℚ) ^ f.fractionBits + 1 ≤ significand := by
      have : twoTo f.fractionBits + 1 ≤ significand :=
        Nat.lt_of_le_of_ne (number.full.resolve_left noLeast) (Ne.symm other)
      exact_mod_cast this
    rw [lowerEnd, if_neg fun both => other both.1] at above
    have := grows (Nat.zero_le k)
    linarith
  have next : k = 0 := by
    by_contra far
    have := grows (Nat.one_le_iff_ne_zero.2 far)
    linarith
  rw [lowerEnd, if_pos ⟨first, noLeast⟩] at above
  refine ⟨next, first, above, ?_⟩
  have := grows (Nat.zero_le k)
  linarith

/-- **The last place** of what is in the neighbourhood of a number is that of the number, unless it is below the first
number of a binade. -/
theorem lastPlace_of_holds (number : f.Positive significand exponent)
    (holds : (f.neighbourhood significand exponent).Holds x) {place : Int} (last : f.LastPlace x place) :
    place = exponent ∨ place = exponent - 1 ∧ significand = twoTo f.fractionBits ∧
      Near (x / 2 ^ place) (2 * significand) := by
  rcases (lastPlace_le number holds last).eq_or_lt with same | lower
  · exact .inl same
  · obtain ⟨k, rfl⟩ : ∃ k : Nat, place = exponent - (k + 1) := ⟨(exponent - place - 1).toNat, by omega⟩
    obtain ⟨rfl, first, above, below⟩ := first_of_lastPlace_lt number holds last
    have finer : x / 2 ^ (exponent - ((0 : Nat) + 1)) = 2 * (x / 2 ^ exponent) := by
      rw [Nat.cast_zero, zero_add, zpow_sub_one₀ two_ne_zero]
      field_simp
    have within : |2 * (x / 2 ^ exponent) - (2 * significand : Nat)| ≤ 1 / 2 := by
      push_cast
      exact abs_le.2 ⟨by linarith, by linarith⟩
    refine .inr ⟨by push_cast; ring, first, ?_⟩
    rw [finer]
    exact within.lt_or_eq.imp_right fun half => ⟨half, Nat.mul_mod_right 2 significand⟩

/-- **Rounding.** What is in the neighbourhood of a number is rounded to the pattern of this number. -/
theorem round_eq (number : f.Positive significand exponent) {num den : Nat} (num_pos : 0 < num) (den_pos : 0 < den)
    (holds : (f.neighbourhood significand exponent).Holds (ratio (num, den))) (negative : Bool) :
    f.round negative num den = f.signed negative (f.pattern significand exponent) := by
  have last := lastPlace_exponentOf (f := f) num_pos den_pos
  have rounds {k : Nat} (near : Near (ratio (num, den) / 2 ^ f.exponentOf num den) k) :
      roundHalfEven (scale num den (f.exponentOf num den)).1 (scale num den (f.exponentOf num den)).2 = k := by
    refine roundHalfEven_eq (scaleBy_pos two_pos den_pos) ?_
    rw [Prod.mk.eta, scale_eq, ratio_scaleBy]
    exact near
  have carried : (f.exponentOf num den - f.leastExponent).toNat * twoTo f.fractionBits +
      roundHalfEven (scale num den (f.exponentOf num den)).1 (scale num den (f.exponentOf num den)).2 =
        f.pattern significand exponent := by
    rcases lastPlace_of_holds number holds last with same | ⟨below, first, near⟩
    · rw [same] at rounds ⊢
      rw [rounds (near_of_holds number.pos holds), pattern]
    · -- the significand is rounded up to the next power of two and carries into the exponent
      have least := last.least
      obtain ⟨steps, place, next⟩ : ∃ steps : Nat, (f.exponentOf num den - f.leastExponent).toNat = steps ∧
          (exponent - f.leastExponent).toNat = steps + 1 := ⟨_, rfl, by omega⟩
      rw [rounds near, pattern, place, next, first]
      ring
  rw [round, if_neg num_pos.ne']
  exact congrArg (f.signed negative) ((congrArg (min f.infinity) carried).trans (min_eq_right number.finite.le))

end Format

end WasmLens.Floating
