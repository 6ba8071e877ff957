import Phrasebook.Decimal.Nearest
import Phrasebook.Proofs.Double.Order

/-!
# The range of nearest numbers

What rounding to a binary format yields has a significand below the precision of the format and an
exponent in its range (`BinaryFormat.exists_nearest`). An integer of 64 bits is well inside the
range of doubles, so the double nearest to it is finite (`Double.isFinite_ofInt`).
-/

namespace Phrasebook

namespace BinaryFormat

/-! ### Quotients -/

/-- Scaling a quotient down keeps its denominator positive. -/
theorem scaleDown_pos (q : Int) (num : Nat) {den : Nat} (h : 0 < den) :
    0 < (scaleDown q num den).2 := by
  unfold scaleDown
  split
  · exact Nat.mul_pos h (Nat.pow_pos Nat.two_pos)
  · exact h

/-- Scaling a quotient down divides it by a power of two. -/
theorem scaleDown_eq (q : Int) (num den : Nat) :
    ((scaleDown q num den).1 : ℚ) / (scaleDown q num den).2 = num / den / 2 ^ q := by
  unfold scaleDown
  split
  · next hq =>
    obtain ⟨k, rfl⟩ := Int.eq_ofNat_of_zero_le hq
    simp [div_div]
  · next hq =>
    obtain ⟨k, hk⟩ := Int.eq_ofNat_of_zero_le (show 0 ≤ -q by omega)
    obtain rfl : q = -(k : Int) := by omega
    simp
    ring

/-- A quotient lies below the power of two after the greatest one that it reaches. -/
theorem lt_floorLog2 {num den : Nat} (h : 0 < den) :
    (num / den : ℚ) < 2 ^ (floorLog2 num den + 1) := by
  have hden : (0 : ℚ) < den := by exact_mod_cast h
  have hnum : (num : ℚ) < 2 ^ ((num.log2 : Int) + 1) := by
    exact_mod_cast Nat.lt_log2_self (n := num)
  have hdenLog : (2 : ℚ) ^ (den.log2 : Int) ≤ den := by
    exact_mod_cast Nat.log2_self_le (Nat.ne_of_gt h)
  unfold floorLog2
  simp only
  split
  · next hbelow =>
    -- the quotient misses the first guess, so it lies below it
    have hpos := scaleDown_pos ((num.log2 : Int) - den.log2) num h
    have heq := scaleDown_eq ((num.log2 : Int) - den.log2) num den
    have hscaled : ((scaleDown ((num.log2 : Int) - den.log2) num den).1 : ℚ) /
        (scaleDown ((num.log2 : Int) - den.log2) num den).2 < 1 := by
      rw [div_lt_one (by exact_mod_cast hpos)]
      exact_mod_cast hbelow
    rw [heq, div_lt_one (by positivity)] at hscaled
    rwa [sub_add_cancel]
  · have hexponent : (num.log2 : Int) - den.log2 + 1 = (num.log2 + 1) - den.log2 := by ring
    rw [hexponent, zpow_sub₀ two_ne_zero]
    gcongr

/-- The exponent of a quotient is at most the difference of the exponents of its terms. -/
theorem floorLog2_le (num den : Nat) : floorLog2 num den ≤ num.log2 - den.log2 := by
  unfold floorLog2
  simp only
  split <;> omega

/-- A quotient below a natural stays at or below it when it is rounded. -/
theorem roundHalfEven_le {num den bound : Nat} (h : num < bound * den) :
    roundHalfEven num den ≤ bound := by
  have hden : 0 < den := Nat.pos_of_mul_pos_left (Nat.zero_lt_of_lt h)
  have hquotient : num / den < bound := (Nat.div_lt_iff_lt_mul hden).mpr h
  unfold roundHalfEven
  simp only
  split_ifs <;> omega

/-! ### Rounding -/

variable {fmt : BinaryFormat} {num den : Nat} {p : Double.Parts}

/-- The exponent that a quotient is rounded at: its last bit, or the last bit of the format. -/
def lastExponent (fmt : BinaryFormat) (num den : Nat) : Int :=
  max fmt.minExponent (floorLog2 num den - ((fmt.precision : Int) - 1))

/-- At the exponent where it is rounded, a quotient lies below the precision of the format. -/
theorem scaleDown_lastExponent_lt (fmt : BinaryFormat) (num : Nat) (h : 0 < den) :
    (scaleDown (lastExponent fmt num den) num den).1 <
      2 ^ fmt.precision * (scaleDown (lastExponent fmt num den) num den).2 := by
  have hpos := scaleDown_pos (lastExponent fmt num den) num h
  have hexponent : floorLog2 num den + 1 ≤ fmt.precision + lastExponent fmt num den := by
    unfold lastExponent
    omega
  have hbelow : (num / den : ℚ) < 2 ^ fmt.precision * 2 ^ lastExponent fmt num den := by
    calc (num / den : ℚ) < 2 ^ (floorLog2 num den + 1) := lt_floorLog2 h
      _ ≤ 2 ^ ((fmt.precision : Int) + lastExponent fmt num den) :=
        zpow_le_zpow_right₀ one_le_two hexponent
      _ = 2 ^ fmt.precision * 2 ^ lastExponent fmt num den := by
        rw [zpow_add₀ two_ne_zero, zpow_natCast]
  have hscaled : ((scaleDown (lastExponent fmt num den) num den).1 : ℚ) /
      (scaleDown (lastExponent fmt num den) num den).2 < 2 ^ fmt.precision := by
    rw [scaleDown_eq, div_lt_iff₀ (by positivity)]
    exact hbelow
  rw [div_lt_iff₀ (by exact_mod_cast hpos)] at hscaled
  exact_mod_cast hscaled

/-- A quotient that is rounded below the greatest exponent has a nearest number, with a significand
below the precision and an exponent in the range of the format. -/
theorem exists_nearest (hden : 0 < den) (hprecision : 0 < fmt.precision)
    (hlast : lastExponent fmt num den < fmt.maxExponent) :
    ∃ p, fmt.nearest num den = some p ∧ p.significand < 2 ^ fmt.precision ∧
      p.exponent ≤ fmt.maxExponent := by
  by_cases hnum : num = 0
  · have hmin : fmt.minExponent ≤ lastExponent fmt num den := le_max_left _ _
    exact ⟨⟨0, fmt.minExponent⟩, by simp [nearest, hnum], Nat.two_pow_pos _,
      (hmin.trans_lt hlast).le⟩
  · have hround := roundHalfEven_le (scaleDown_lastExponent_lt fmt num hden)
    unfold lastExponent at hround hlast
    unfold nearest
    simp only [hnum, if_false]
    split
    · refine ⟨_, if_neg ?_, ?_, ?_⟩
      · simp only
        omega
      · exact Nat.pow_lt_pow_right Nat.one_lt_two (by omega)
      · simp only
        omega
    · next hm =>
      refine ⟨_, if_neg ?_, ?_, ?_⟩
      · simp only
        omega
      · exact Nat.lt_of_le_of_ne hround hm
      · simp only
        omega

end BinaryFormat

namespace Double

/-- The double nearest to an integer of 64 bits is finite. -/
theorem isFinite_ofInt {n : Int} (h : n.natAbs ≤ 2 ^ 63) : isFinite (ofInt n) = true := by
  have hlog : n.natAbs.log2 < 64 := by
    by_cases hzero : n.natAbs = 0
    · simp [hzero]
    · rw [Nat.log2_lt hzero]
      omega
  have hfloor := BinaryFormat.floorLog2_le n.natAbs 1
  have hlast : BinaryFormat.lastExponent .double n.natAbs 1 < BinaryFormat.double.maxExponent := by
    simp only [BinaryFormat.lastExponent, BinaryFormat.double]
    omega
  obtain ⟨p, hp, hsignificand, hexponent⟩ :=
    BinaryFormat.exists_nearest Nat.one_pos (by decide) hlast
  rw [ofInt, hp]
  exact isFinite_ofParts hsignificand hexponent

end Double

end Phrasebook
