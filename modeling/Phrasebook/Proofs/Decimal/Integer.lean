import Phrasebook.Proofs.Decimal.Nearest
import Phrasebook.Proofs.Double.Order

/-!
# Integers as doubles

The double nearest to an integer of 64 bits stands for that integer with all but its 53 leading bits
rounded away, a half going to the even neighbour (`roundInt`, `number_ofInt`). Up to `2 ^ 53` nothing
is rounded away (`roundInt_eq_self`). Beyond it distinct integers may get the same double, but they
never change places (`roundInt_mono`): as doubles, integers are ordered as they are after rounding
(`compare_rank_ofInt`), which is their own order if they are equal or stay distinct
(`compare_roundInt_eq_iff`).
-/

namespace Phrasebook

namespace BinaryFormat

/-! ### Quotients rounded -/

/-- A natural is its own quotient by one, with nothing to round. -/
theorem roundHalfEven_one (n : Nat) : roundHalfEven n 1 = n := by
  simp [roundHalfEven, Nat.mod_one]

/-- A quotient that reaches a natural does so rounded. -/
theorem le_roundHalfEven {num den bound : Nat} (hden : 0 < den) (h : bound * den ≤ num) :
    bound ≤ roundHalfEven num den := by
  have hquotient : bound ≤ num / den := (Nat.le_div_iff_mul_le hden).mpr h
  unfold roundHalfEven
  simp only
  split_ifs <;> omega

/-- The greater of two numerators has the greater rounded quotient. -/
theorem roundHalfEven_mono {a b den : Nat} (h : a ≤ b) :
    roundHalfEven a den ≤ roundHalfEven b den := by
  have hquotient : a / den ≤ b / den := Nat.div_le_div_right h
  have ha := Nat.div_add_mod a den
  have hb := Nat.div_add_mod b den
  unfold roundHalfEven
  simp only
  rcases Nat.lt_or_eq_of_le hquotient with hlt | heq
  · split_ifs <;> omega
  · rw [heq] at ha ⊢
    split_ifs <;> omega

/-- The exponent of the greatest power of two below a natural. -/
theorem floorLog2_one {n : Nat} (h : n ≠ 0) : floorLog2 n 1 = n.log2 := by
  have hone : (1 : Nat).log2 = 0 := rfl
  have hlog : (n.log2 : Int) - (1 : Nat).log2 = n.log2 := by simp [hone]
  have hreached : ¬ n < 1 * Nat.pow 2 n.log2 := by
    rw [one_mul]
    exact Nat.not_lt.mpr (Nat.log2_self_le h)
  unfold floorLog2
  simp only [hlog, scaleDown, Int.natCast_nonneg, if_true, Int.toNat_natCast, hreached, if_false]

end BinaryFormat

namespace Double

open BinaryFormat (roundHalfEven scaleDown)

/-! ### Rounding integers -/

/-- The natural with all but its 53 leading bits rounded away, a half going to the even neighbour. -/
def roundNat (n : Nat) : Nat :=
  let unit := 2 ^ (n.log2 - 52)
  roundHalfEven n unit * unit

/-- An integer rounded as its absolute value is. -/
def roundInt (n : Int) : Int :=
  if n < 0 then -(roundNat n.natAbs) else roundNat n.natAbs

/-- Rounding a natural comes to the next power of two at most. -/
theorem roundNat_le (n : Nat) : roundNat n ≤ 2 ^ (n.log2 + 1) := by
  have hpow : 2 ^ (n.log2 + 1 - (n.log2 - 52)) * 2 ^ (n.log2 - 52) = 2 ^ (n.log2 + 1) := by
    rw [← pow_add]
    congr 1
    omega
  calc roundNat n ≤ 2 ^ (n.log2 + 1 - (n.log2 - 52)) * 2 ^ (n.log2 - 52) := by
        apply Nat.mul_le_mul_right
        apply BinaryFormat.roundHalfEven_le
        rw [hpow]
        exact Nat.lt_log2_self
    _ = 2 ^ (n.log2 + 1) := hpow

/-- Rounding a natural does not go below its greatest power of two. -/
theorem le_roundNat {n : Nat} (h : n ≠ 0) : 2 ^ n.log2 ≤ roundNat n := by
  have hpow : 2 ^ (n.log2 - (n.log2 - 52)) * 2 ^ (n.log2 - 52) = 2 ^ n.log2 := by
    rw [← pow_add]
    congr 1
    omega
  calc 2 ^ n.log2 = 2 ^ (n.log2 - (n.log2 - 52)) * 2 ^ (n.log2 - 52) := hpow.symm
    _ ≤ roundNat n := by
        apply Nat.mul_le_mul_right
        apply BinaryFormat.le_roundHalfEven (Nat.two_pow_pos _)
        rw [hpow]
        exact Nat.log2_self_le h

/-- Rounding keeps the order of naturals. -/
theorem roundNat_mono {a b : Nat} (h : a ≤ b) : roundNat a ≤ roundNat b := by
  by_cases hzero : a = 0
  · subst hzero
    exact Nat.zero_le _
  · have hb : b ≠ 0 := by omega
    have hlog : a.log2 ≤ b.log2 := (Nat.le_log2 hb).mpr ((Nat.log2_self_le hzero).trans h)
    rcases Nat.lt_or_eq_of_le hlog with hlt | heq
    · calc roundNat a ≤ 2 ^ (a.log2 + 1) := roundNat_le a
        _ ≤ 2 ^ b.log2 := Nat.pow_le_pow_right Nat.two_pos hlt
        _ ≤ roundNat b := le_roundNat hb
    · unfold roundNat
      rw [heq]
      exact Nat.mul_le_mul_right _ (BinaryFormat.roundHalfEven_mono h)

/-- Nothing is rounded away from a natural of up to 53 bits. -/
theorem roundNat_eq_self {n : Nat} (h : n ≤ 2 ^ 53) : roundNat n = n := by
  rcases Nat.lt_or_eq_of_le h with hlt | rfl
  · have hexact : n.log2 - 52 = 0 := by
      by_cases hzero : n = 0
      · simp [hzero]
      · have hlog := (Nat.log2_lt hzero).mpr hlt
        omega
    simp [roundNat, hexact, BinaryFormat.roundHalfEven_one]
  · decide +kernel

/-- Rounding keeps the order of integers. -/
theorem roundInt_mono {a b : Int} (h : a ≤ b) : roundInt a ≤ roundInt b := by
  unfold roundInt
  by_cases ha : a < 0
  · by_cases hb : b < 0
    · have hround : roundNat b.natAbs ≤ roundNat a.natAbs := roundNat_mono (by omega)
      rw [if_pos ha, if_pos hb]
      omega
    · rw [if_pos ha, if_neg hb]
      omega
  · have hround : roundNat a.natAbs ≤ roundNat b.natAbs := roundNat_mono (by omega)
    rw [if_neg ha, if_neg (by omega)]
    omega

/-- Nothing is rounded away from an integer of up to 53 bits. -/
theorem roundInt_eq_self {n : Int} (h : n.natAbs ≤ 2 ^ 53) : roundInt n = n := by
  unfold roundInt
  rw [roundNat_eq_self h]
  split <;> omega

/-! ### The nearest double -/

/-- The 53 leading bits of a natural, rounded; they may come to the next power of two. -/
def leadingBits (n : Nat) : Nat :=
  let (num, den) := scaleDown ((n.log2 : Int) - 52) n 1
  roundHalfEven num den

/-- The leading bits of a natural of 53 bits or more are what is left when the others are rounded
away. -/
theorem leadingBits_of_long {n : Nat} (h : 52 ≤ n.log2) :
    leadingBits n = roundHalfEven n (2 ^ (n.log2 - 52)) := by
  have hexponent : (0 : Int) ≤ (n.log2 : Int) - 52 := by omega
  have hunit : ((n.log2 : Int) - 52).toNat = n.log2 - 52 := by omega
  simp only [leadingBits, scaleDown, if_pos hexponent, hunit, one_mul, Nat.pow_eq]

/-- The leading bits of a shorter natural are its own, with zeros behind them. -/
theorem leadingBits_of_short {n : Nat} (h : n.log2 < 52) :
    leadingBits n = n * 2 ^ (52 - n.log2) := by
  have hexponent : ¬(0 : Int) ≤ (n.log2 : Int) - 52 := by omega
  have hunit : (-((n.log2 : Int) - 52)).toNat = 52 - n.log2 := by omega
  simp only [leadingBits, scaleDown, if_neg hexponent, hunit, BinaryFormat.roundHalfEven_one,
    Nat.pow_eq]

/-- The first of the leading bits is set. -/
theorem le_leadingBits {n : Nat} (h : n ≠ 0) : 2 ^ 52 ≤ leadingBits n := by
  have hreached := Nat.log2_self_le h
  by_cases hlong : 52 ≤ n.log2
  · rw [leadingBits_of_long hlong]
    apply BinaryFormat.le_roundHalfEven (Nat.two_pow_pos _)
    rwa [← pow_add, Nat.add_sub_cancel' hlong]
  · rw [leadingBits_of_short (by omega)]
    calc 2 ^ 52 = 2 ^ n.log2 * 2 ^ (52 - n.log2) := by rw [← pow_add, Nat.add_sub_of_le (by omega)]
      _ ≤ n * 2 ^ (52 - n.log2) := Nat.mul_le_mul_right _ hreached

/-- The leading bits are 53, or they have come to the next power of two. -/
theorem leadingBits_le (n : Nat) : leadingBits n ≤ 2 ^ 53 := by
  have hbelow := Nat.lt_log2_self (n := n)
  by_cases hlong : 52 ≤ n.log2
  · have hpow : 2 ^ 53 * 2 ^ (n.log2 - 52) = 2 ^ (n.log2 + 1) := by
      rw [← pow_add]
      congr 1
      omega
    rw [leadingBits_of_long hlong]
    apply BinaryFormat.roundHalfEven_le
    rwa [hpow]
  · have hpow : 2 ^ (n.log2 + 1) * 2 ^ (52 - n.log2) = 2 ^ 53 := by
      rw [← pow_add]
      congr 1
      omega
    rw [leadingBits_of_short (by omega), ← hpow]
    exact Nat.mul_le_mul_right _ hbelow.le

/-- The leading bits of a natural make up the rounded natural. -/
theorem leadingBits_mul (n : Nat) :
    (leadingBits n : ℚ) * 2 ^ ((n.log2 : Int) - 52) = roundNat n := by
  by_cases hlong : 52 ≤ n.log2
  · have hexponent : (n.log2 : Int) - 52 = (n.log2 - 52 : Nat) := by omega
    rw [leadingBits_of_long hlong, hexponent, zpow_natCast, roundNat]
    push_cast
    rfl
  · have hexponent : (n.log2 : Int) - 52 = -((52 - n.log2 : Nat) : Int) := by omega
    have hexact : roundNat n = n := by
      apply roundNat_eq_self
      exact Nat.lt_log2_self.le.trans (Nat.pow_le_pow_right Nat.two_pos (by omega))
    rw [leadingBits_of_short (by omega), hexact, hexponent, zpow_neg, zpow_natCast]
    push_cast
    rw [mul_assoc, mul_inv_cancel₀ (by positivity), mul_one]

/-- The double nearest to a natural has these bits, one less when they carry. -/
theorem nearest_natural {n : Nat} (hzero : n ≠ 0) (h : n.log2 < 64) :
    BinaryFormat.double.nearest n 1 = some
      (if leadingBits n = 2 ^ 53 then ⟨2 ^ 52, (n.log2 : Int) - 52 + 1⟩
        else ⟨leadingBits n, (n.log2 : Int) - 52⟩) := by
  have hlast : max BinaryFormat.double.minExponent
      (BinaryFormat.floorLog2 n 1 - ((BinaryFormat.double.precision : Int) - 1)) =
      (n.log2 : Int) - 52 := by
    rw [BinaryFormat.floorLog2_one hzero]
    simp only [BinaryFormat.double]
    omega
  unfold BinaryFormat.nearest
  simp only [hzero, if_false, hlast]
  refine if_neg ?_
  split <;> simp only [BinaryFormat.double] <;> omega

/-- The parts of the double nearest to a natural stand for the rounded natural. -/
theorem exists_nearest_natural {n : Nat} (h : n ≤ 2 ^ 63) :
    ∃ p : Parts, BinaryFormat.double.nearest n 1 = some p ∧ p.Canonical ∧
      p.number = roundNat n := by
  by_cases hzero : n = 0
  · subst hzero
    exact ⟨⟨0, -1074⟩, rfl, ⟨by decide, Or.inr rfl, by decide, by decide⟩,
      by simp [Parts.number, roundNat_eq_self]⟩
  · have hlog : n.log2 < 64 := (Nat.log2_lt hzero).mpr (by omega)
    have hlow := le_leadingBits hzero
    have hhigh := leadingBits_le n
    have hnumber := leadingBits_mul n
    refine ⟨_, nearest_natural hzero hlog, ?_⟩
    by_cases hcarry : leadingBits n = 2 ^ 53
    · rw [if_pos hcarry]
      refine ⟨⟨by norm_num, Or.inl le_rfl, ?_, ?_⟩, ?_⟩
      · simp only
        omega
      · simp only
        omega
      · rw [← hnumber, hcarry, Parts.number, zpow_add₀ two_ne_zero]
        push_cast
        ring
    · rw [if_neg hcarry]
      refine ⟨⟨Nat.lt_of_le_of_ne hhigh hcarry, Or.inl hlow, ?_, ?_⟩, hnumber⟩
      · simp only
        omega
      · simp only
        omega

/-- The double nearest to an integer of 64 bits stands for the rounded integer. -/
theorem number_ofInt {n : Int} (h : n.natAbs ≤ 2 ^ 63) : number (ofInt n) = roundInt n := by
  obtain ⟨p, hp, hcanonical, hnumber⟩ := exists_nearest_natural h
  rw [ofInt, hp]
  simp only [number_ofParts hcanonical, hnumber, roundInt, decide_eq_true_iff]
  split <;> simp

/-- As doubles, integers of 64 bits are ordered as they are after rounding. -/
theorem compare_rank_ofInt {a b : Int} (ha : a.natAbs ≤ 2 ^ 63) (hb : b.natAbs ≤ 2 ^ 63) :
    compare (rank (ofInt a)) (rank (ofInt b)) = compare (roundInt a) (roundInt b) := by
  rw [compare_rank, number_ofInt ha, number_ofInt hb, ← cmp_eq_compare, ← cmp_eq_compare]
  exact Int.cast_strictMono.cmp_map_eq _ _

/-! ### The order of rounded integers -/

/-- Rounding may make integers equal, but does not reverse their order. -/
theorem compare_roundInt (a b : Int) :
    compare (roundInt a) (roundInt b) = compare a b ∨ compare (roundInt a) (roundInt b) = .eq := by
  rcases Int.lt_trichotomy a b with h | h | h
  · rcases Int.lt_or_eq_of_le (roundInt_mono h.le) with hlt | heq
    · left
      rw [compare_lt_iff_lt.mpr h, compare_lt_iff_lt.mpr hlt]
    · right
      exact compare_eq_iff_eq.mpr heq
  · right
    rw [h]
    exact compare_eq_iff_eq.mpr rfl
  · rcases Int.lt_or_eq_of_le (roundInt_mono h.le) with hlt | heq
    · left
      rw [compare_gt_iff_gt.mpr h, compare_gt_iff_gt.mpr hlt]
    · right
      exact compare_eq_iff_eq.mpr heq.symm

/-- The order survives rounding just if the integers are equal or stay distinct. -/
theorem compare_roundInt_eq_iff (a b : Int) :
    compare (roundInt a) (roundInt b) = compare a b ↔ a = b ∨ roundInt a ≠ roundInt b := by
  constructor
  · intro h
    by_cases heq : roundInt a = roundInt b
    · rw [compare_eq_iff_eq.mpr heq] at h
      exact Or.inl (compare_eq_iff_eq.mp h.symm)
    · exact Or.inr heq
  · rintro (rfl | hne)
    · rw [compare_eq_iff_eq.mpr rfl, compare_eq_iff_eq.mpr rfl]
    · exact (compare_roundInt a b).resolve_right fun heq => hne (compare_eq_iff_eq.mp heq)

end Double

end Phrasebook
