import Mathlib
import Phrasebook.Double

/-!
# The order of doubles

The place of a finite double among all finite doubles is read off its bits (`rank`). Here it is
shown that these places order the finite doubles as the comparison of doubles does, which takes a
double apart into a sign, an exponent and a significand, compares these one after another, and finds
no order at all when one of the two is undefined (`compare?_of_isFinite`).

A finite double is unpacked into just the parts that `parts` names (`unpack_of_pos`); of two
magnitudes the greater has the greater parts (`parts_lt`); the signs turn the order of magnitudes
into that of places (`compare_unpack`).
-/

/-! ## The bits of doubles

A double is kept as 64 bits: a sign, eleven bits of exponent and 52 of significand. What `magnitude`
and `sign` read off the number that the bits make up is what these fields hold
(`toNat_unpackExponent`, `toNat_unpackMantissa`, `ofBitVec_unpackSign`). Bits that do not say that
the double is undefined are kept as they are when a double is made from them, so a double has the
magnitude that it was made with (`magnitude_ofMagnitude`), and parts in the range of doubles make up
a finite one (`isFinite_ofParts`).
-/

namespace Phrasebook.Double

open Float.Model (UnpackedFloat)
open Float.Model.UnpackedFloat (Sign unpackSign unpackExponent unpackMantissa)

/-- The bits of a double. -/
def bits (x : Float) : BitVec 64 := x.toModel.toBits.toBitVec

/-- The sign of a double. -/
def sign (x : Float) : Sign :=
  if isNegative x then .negative else .positive

/-! ### Fields -/

/-- The significand field is the lowest 52 bits. -/
theorem toNat_unpackMantissa (b : BitVec 64) :
    (@unpackMantissa .binary64 b).toNat = b.toNat % Nat.pow 2 63 % Nat.pow 2 52 := by
  rw [UnpackedFloat.unpackMantissa_def, BitVec.extractLsb'_toNat]
  simp

/-- The exponent field is the bits between the sign and the significand. -/
theorem toNat_unpackExponent (b : BitVec 64) :
    (@unpackExponent .binary64 b).toNat = b.toNat % Nat.pow 2 63 / Nat.pow 2 52 := by
  rw [UnpackedFloat.unpackExponent_def, BitVec.extractLsb'_toNat, Nat.shiftRight_eq_div_pow]
  simp
  omega

/-- The sign field holds the sign. -/
theorem ofBitVec_unpackSign (x : Float) :
    Sign.ofBitVec (@unpackSign .binary64 (bits x)) = sign x := by
  have htop : (@unpackSign .binary64 (bits x)).toNat = x.toBits.toNat / 2 ^ 63 % 2 := by
    rw [UnpackedFloat.unpackSign_def, BitVec.extractLsb'_toNat, Nat.shiftRight_eq_div_pow]
    rfl
  have hclear : @unpackSign .binary64 (bits x) = 0#1 ↔ isNegative x = false := by
    rw [← BitVec.toNat_inj, htop, isNegative, Nat.testBit_eq_decide_div_mod_eq]
    simp
  unfold Sign.ofBitVec sign
  cases hnegative : isNegative x with
  | false =>
    rw [if_pos (hclear.mpr hnegative)]
    rfl
  | true =>
    have hset : @unpackSign .binary64 (bits x) ≠ 0#1 := by
      rw [Ne, hclear, hnegative]
      decide
    rw [if_neg hset]
    rfl

/-- Below the magnitude of the infinities, the bits of the exponent are not all set. -/
theorem unpackExponent_ne {b : BitVec 64} (h : b.toNat % Nat.pow 2 63 < infiniteMagnitude) :
    @unpackExponent .binary64 b ≠ -1#11 := by
  intro hset
  have htop : (-1#11).toNat = 2047 := rfl
  have hexponent := toNat_unpackExponent b
  rw [hset, htop] at hexponent
  norm_num [infiniteMagnitude] at h hexponent
  omega

/-! ### Doubles put together -/

/-- A double keeps the bits that it is made from, unless they say that it is undefined. -/
theorem bits_ofBits {b : UInt64} (h : b.toNat % Nat.pow 2 63 < infiniteMagnitude) :
    bits (Float.ofBits b) = b.toBitVec := by
  have hbits : bits (Float.ofBits b) =
      UnpackedFloat.pack .binary64 (UnpackedFloat.unpack .binary64 b.toBitVec) := rfl
  have hnumber : @UnpackedFloat.isNaNBits .binary64 b.toBitVec = false :=
    decide_eq_false fun hset => unpackExponent_ne h hset.1
  rw [hbits, UnpackedFloat.pack_unpack, hnumber]
  rfl

/-- A double put together from a sign and a finite magnitude has just these bits. -/
theorem toNat_bits_ofMagnitude {negative : Bool} {m : Nat} (h : m < infiniteMagnitude) :
    (bits (ofMagnitude negative m)).toNat = if negative then Nat.pow 2 63 + m else m := by
  have hbelow : m < 9218868437227405312 := h
  have hpow : Nat.pow 2 63 = 9223372036854775808 := rfl
  have hword : (UInt64.ofNat (if negative then Nat.pow 2 63 + m else m)).toNat =
      if negative then Nat.pow 2 63 + m else m := by
    rw [UInt64.toNat_ofNat', hpow]
    split <;> omega
  have hfinite : (UInt64.ofNat (if negative then Nat.pow 2 63 + m else m)).toNat % Nat.pow 2 63 <
      infiniteMagnitude := by
    rw [hword, infiniteMagnitude, hpow]
    split <;> omega
  rw [ofMagnitude, bits_ofBits hfinite]
  exact hword

/-- A double that is made from a finite magnitude has it. -/
theorem magnitude_ofMagnitude {negative : Bool} {m : Nat} (h : m < infiniteMagnitude) :
    magnitude (ofMagnitude negative m) = m := by
  have hbelow : m < 9218868437227405312 := h
  have hmagnitude : magnitude (ofMagnitude negative m) =
      (bits (ofMagnitude negative m)).toNat % Nat.pow 2 63 := rfl
  rw [hmagnitude, toNat_bits_ofMagnitude h]
  norm_num
  split <;> omega

/-- A double that is made from a finite magnitude has the sign that it is made with. -/
theorem isNegative_ofMagnitude {negative : Bool} {m : Nat} (h : m < infiniteMagnitude) :
    isNegative (ofMagnitude negative m) = negative := by
  have hbelow : m < 9218868437227405312 := h
  have hnegative : isNegative (ofMagnitude negative m) =
      (bits (ofMagnitude negative m)).toNat.testBit 63 := rfl
  rw [hnegative, toNat_bits_ofMagnitude h, Nat.testBit_eq_decide_div_mod_eq]
  cases negative with
  | false =>
    norm_num
    omega
  | true =>
    norm_num
    omega

/-- The bits of parts in the range of doubles stay below those of the infinities. -/
theorem packed_lt {p : Parts} (hsignificand : p.significand < 2 ^ 53) (hexponent : p.exponent ≤ 971) :
    (if p.significand < Nat.pow 2 52 then p.significand
      else (p.exponent + 1075).toNat * Nat.pow 2 52 + (p.significand - Nat.pow 2 52)) <
      infiniteMagnitude := by
  have hpow : Nat.pow 2 52 = 4503599627370496 := rfl
  rw [infiniteMagnitude, hpow]
  split <;> omega

/-- Parts in the range of doubles make up a finite double. -/
theorem isFinite_ofParts {negative : Bool} {p : Parts} (hsignificand : p.significand < 2 ^ 53)
    (hexponent : p.exponent ≤ 971) : isFinite (ofParts negative p) = true := by
  have hpacked := packed_lt hsignificand hexponent
  rw [ofParts, isFinite, magnitude_ofMagnitude hpacked, decide_eq_true_iff]
  exact hpacked

/-! ## Places and parts -/

/-- The order of two doubles, if they have one. -/
def compare? (x y : Float) : Option Ordering :=
  match decide (x ≤ y), decide (y ≤ x) with
  | true, true => some .eq
  | true, false => some .lt
  | false, true => some .gt
  | false, false => none

/-! ### Parts and magnitudes -/

/-- Without an exponent field the significand is the field alone, at the least exponent. -/
theorem parts_of_subnormal {x : Float} (h : magnitude x / Nat.pow 2 52 = 0) :
    parts x = ⟨magnitude x % Nat.pow 2 52, -1074⟩ := by
  simp only [parts, h, if_true]

/-- With an exponent field the significand has its leading bit. -/
theorem parts_of_normal {x : Float} (h : magnitude x / Nat.pow 2 52 ≠ 0) :
    parts x = ⟨magnitude x % Nat.pow 2 52 + Nat.pow 2 52,
      ((magnitude x / Nat.pow 2 52 : Nat) : Int) - 1075⟩ := by
  simp only [parts, h, if_false]

/-- The significand of a double that is no zero is positive. -/
theorem significand_pos {x : Float} (h : magnitude x ≠ 0) : 0 < (parts x).significand := by
  by_cases hbiased : magnitude x / Nat.pow 2 52 = 0
  · rw [parts_of_subnormal hbiased]
    norm_num at hbiased ⊢
    omega
  · rw [parts_of_normal hbiased]
    norm_num

/-- The greater of two magnitudes has the greater exponent, or the greater significand at the same
exponent. -/
theorem parts_lt {x y : Float} (h : magnitude x < magnitude y) :
    (parts x).exponent < (parts y).exponent ∨
      (parts x).exponent = (parts y).exponent ∧ (parts x).significand < (parts y).significand := by
  have hpow : Nat.pow 2 52 = 4503599627370496 := rfl
  simp only [parts, hpow]
  split <;> split <;> simp only [true_and] <;> omega

/-- The parts of the smaller of two magnitudes come first when exponents are compared before
significands. -/
theorem compare_parts_of_lt {x y : Float} (h : magnitude x < magnitude y) :
    (compare (parts x).exponent (parts y).exponent).then
      (compare (parts x).significand (parts y).significand) = .lt := by
  rcases parts_lt h with hexponent | ⟨hexponent, hsignificand⟩
  · simp [compare_lt_iff_lt.mpr hexponent]
  · simp [hexponent, compare_lt_iff_lt.mpr hsignificand]

/-- Parts are ordered as magnitudes are. -/
theorem compare_parts (x y : Float) :
    (compare (parts x).exponent (parts y).exponent).then
      (compare (parts x).significand (parts y).significand) =
      compare (magnitude x) (magnitude y) := by
  rcases Nat.lt_trichotomy (magnitude x) (magnitude y) with h | h | h
  · rw [compare_parts_of_lt h, compare_lt_iff_lt.mpr h]
  · have hparts : parts x = parts y := by simp only [parts, h]
    simp [hparts, h]
  · have hswap := congrArg Ordering.swap (compare_parts_of_lt h)
    rw [Ordering.swap_then, ← Std.OrientedOrd.eq_swap, ← Std.OrientedOrd.eq_swap] at hswap
    rw [hswap, compare_gt_iff_gt.mpr h]
    rfl

/-! ### Doubles taken apart -/

/-- A double is unpacked from its bits. -/
theorem unpack_eq (x : Float) : x.toModel.unpack = UnpackedFloat.unpack .binary64 (bits x) := rfl

/-- The significand field of a double is the lowest 52 bits of its magnitude. -/
theorem toNat_mantissa (x : Float) :
    (@unpackMantissa .binary64 (bits x)).toNat = magnitude x % Nat.pow 2 52 :=
  toNat_unpackMantissa (bits x)

/-- The exponent field of a double is the rest of its magnitude. -/
theorem toNat_exponent (x : Float) :
    (@unpackExponent .binary64 (bits x)).toNat = magnitude x / Nat.pow 2 52 :=
  toNat_unpackExponent (bits x)

/-- A double of magnitude zero is a zero. -/
theorem unpack_of_zero {x : Float} (h : magnitude x = 0) : x.toModel.unpack = .zero (sign x) := by
  have hmantissa := toNat_mantissa x
  have hexponent := toNat_exponent x
  rw [h] at hmantissa hexponent
  have hmantissa0 : @unpackMantissa .binary64 (bits x) = 0#52 :=
    BitVec.toNat_inj.mp hmantissa
  have hexponent0 : @unpackExponent .binary64 (bits x) = 0#11 :=
    BitVec.toNat_inj.mp hexponent
  have hfinite : @unpackExponent .binary64 (bits x) ≠ -1#11 := by
    rw [hexponent0]
    decide
  rw [unpack_eq, UnpackedFloat.unpack]
  simp only [ofBitVec_unpackSign]
  rw [if_neg hfinite, if_pos hexponent0, dif_pos hmantissa0]

/-- Any other finite double is unpacked into its parts. -/
theorem unpack_of_pos {x : Float} (h : isFinite x = true) (hpos : 0 < (parts x).significand) :
    x.toModel.unpack = .finite (sign x) (parts x).significand (parts x).exponent hpos := by
  have hmantissa := toNat_mantissa x
  have hexponent := toNat_exponent x
  rw [unpack_eq, UnpackedFloat.unpack]
  simp only [ofBitVec_unpackSign]
  rw [if_neg (unpackExponent_ne (b := bits x) (of_decide_eq_true h))]
  by_cases hexponent0 : @unpackExponent .binary64 (bits x) = 0#11
  · have hbiased : magnitude x / Nat.pow 2 52 = 0 := by
      rw [← hexponent, hexponent0]
      rfl
    have hmantissa0 : @unpackMantissa .binary64 (bits x) ≠ 0#52 := by
      intro hzero
      rw [parts_of_subnormal hbiased, ← hmantissa, hzero] at hpos
      exact Nat.lt_irrefl 0 hpos
    rw [if_pos hexponent0, dif_neg hmantissa0]
    simp only [parts_of_subnormal hbiased, hexponent0, hmantissa]
    rfl
  · have hbiased : magnitude x / Nat.pow 2 52 ≠ 0 := by
      intro hzero
      rw [hzero] at hexponent
      exact hexponent0 (BitVec.toNat_inj.mp hexponent)
    -- a normal double has its leading bit in front of the others
    have hlead : (1#1 ++ @unpackMantissa .binary64 (bits x)).toNat =
        magnitude x % Nat.pow 2 52 + Nat.pow 2 52 := by
      rw [BitVec.toNat_append, ← Nat.shiftLeft_add_eq_or_of_lt (BitVec.isLt _), hmantissa,
        Nat.add_comm]
      rfl
    rw [if_neg hexponent0]
    simp only [parts_of_normal hbiased, hlead, hexponent]
    rfl

/-! ### Places -/

/-- A negative double has its place as far below zero as its magnitude says. -/
theorem rank_of_negative {x : Float} (h : sign x = .negative) : rank x = -(magnitude x : Int) := by
  unfold sign at h
  unfold rank
  cases hnegative : isNegative x with
  | false => rw [hnegative] at h; cases h
  | true => rfl

/-- A positive double has its place as far above zero as its magnitude says. -/
theorem rank_of_positive {x : Float} (h : sign x = .positive) : rank x = magnitude x := by
  unfold sign at h
  unfold rank
  cases hnegative : isNegative x with
  | false => rfl
  | true => rw [hnegative] at h; cases h

/-- Both zeros have the place in the middle. -/
theorem rank_of_zero {x : Float} (h : magnitude x = 0) : rank x = 0 := by
  simp [rank, h]

/-- Naturals are ordered alike among the integers. -/
theorem compare_natCast (m n : Nat) : compare (m : Int) (n : Int) = compare m n := by
  rw [← cmp_eq_compare, ← cmp_eq_compare]
  exact Nat.strictMono_cast.cmp_map_eq m n

/-- Naturals are ordered the other way when they are negated. -/
theorem compare_neg_neg (m n : Nat) : compare (-(m : Int)) (-(n : Int)) = (compare m n).swap := by
  have hanti : StrictAnti fun k : Nat => -(k : Int) := fun m n h => neg_lt_neg (Nat.cast_lt.mpr h)
  rw [← cmp_eq_compare, ← cmp_eq_compare, cmp_swap]
  exact hanti.cmp_map_eq m n

/-- Unpacked finite doubles are ordered by their places. -/
theorem compare_unpack {x y : Float} (hx : isFinite x = true) (hy : isFinite y = true) :
    x.toModel.unpack.compare y.toModel.unpack = some (compare (rank x) (rank y)) := by
  by_cases hx0 : magnitude x = 0
  · rw [unpack_of_zero hx0, rank_of_zero hx0]
    by_cases hy0 : magnitude y = 0
    · rw [unpack_of_zero hy0, rank_of_zero hy0]
      rfl
    · rw [unpack_of_pos hy (significand_pos hy0)]
      cases hsign : sign y with
      | negative =>
        rw [rank_of_negative hsign, Int.compare_eq_gt.mpr (by omega)]
        rfl
      | positive =>
        rw [rank_of_positive hsign, Int.compare_eq_lt.mpr (by omega)]
        rfl
  · rw [unpack_of_pos hx (significand_pos hx0)]
    by_cases hy0 : magnitude y = 0
    · rw [unpack_of_zero hy0, rank_of_zero hy0]
      cases hsign : sign x with
      | negative =>
        rw [rank_of_negative hsign, Int.compare_eq_lt.mpr (by omega)]
        rfl
      | positive =>
        rw [rank_of_positive hsign, Int.compare_eq_gt.mpr (by omega)]
        rfl
    · rw [unpack_of_pos hy (significand_pos hy0)]
      -- doubles of one sign are ordered by their parts, negative ones the other way round
      cases hsignx : sign x with
      | negative =>
        rw [rank_of_negative hsignx]
        cases hsigny : sign y with
        | negative =>
          simp only [UnpackedFloat.compare, rank_of_negative hsigny, compare_parts, compare_neg_neg]
        | positive =>
          rw [rank_of_positive hsigny, Int.compare_eq_lt.mpr (by omega)]
          rfl
      | positive =>
        rw [rank_of_positive hsignx]
        cases hsigny : sign y with
        | negative =>
          rw [rank_of_negative hsigny, Int.compare_eq_gt.mpr (by omega)]
          rfl
        | positive =>
          simp only [UnpackedFloat.compare, rank_of_positive hsigny, compare_parts, compare_natCast]

/-- Finite doubles are ordered as their places are. -/
theorem le_iff_rank_le {x y : Float} (hx : isFinite x = true) (hy : isFinite y = true) :
    x ≤ y ↔ rank x ≤ rank y := by
  have hle : x ≤ y ↔ x.toModel.unpack.le y.toModel.unpack = true := by
    rw [show x ≤ y ↔ x.le y = true from Iff.rfl, Float.le, decide_eq_true_iff]
    exact Iff.rfl
  rw [hle, UnpackedFloat.le, compare_unpack hx hy, Option.any_some]
  exact Std.isLE_compare

/-- Finite doubles are ordered by their places. -/
theorem compare?_of_isFinite {x y : Float} (hx : isFinite x = true) (hy : isFinite y = true) :
    compare? x y = some (compare (rank x) (rank y)) := by
  simp only [compare?, le_iff_rank_le hx hy, le_iff_rank_le hy hx]
  rcases Int.lt_trichotomy (rank x) (rank y) with h | h | h
  · have hnot : ¬rank y ≤ rank x := by omega
    simp [Int.le_of_lt h, hnot, compare_lt_iff_lt.mpr h]
  · simp [h]
  · have hnot : ¬rank x ≤ rank y := by omega
    simp [Int.le_of_lt h, hnot, compare_gt_iff_gt.mpr h]

/-! ## The numbers that doubles stand for

A finite double stands for `± m · 2 ^ q`, with the parts `m` and `q` that its bits hold (`number`).
Its place among the finite doubles orders it just as that number does (`compare_rank`), since parts
are kept in one way only: a significand has its leading bit unless the exponent is already the
least. Parts kept so are read back from the double that they make up (`parts_ofParts`), which
therefore stands for their number (`number_ofParts`).
-/

/-- The way parts are kept: the significand fits, and has its leading bit above the least exponent. -/
structure Parts.Canonical (p : Parts) : Prop where
  significand_lt : p.significand < 2 ^ 53
  leading : 2 ^ 52 ≤ p.significand ∨ p.exponent = -1074
  least : -1074 ≤ p.exponent
  greatest : p.exponent ≤ 971

/-- The number that parts make up. -/
def Parts.number (p : Parts) : ℚ :=
  p.significand * 2 ^ p.exponent

/-- The number that a finite double stands for. -/
def number (x : Float) : ℚ :=
  if isNegative x then -(parts x).number else (parts x).number

/-! ### Order -/

/-- The greater of two magnitudes belongs to the greater number. -/
theorem number_parts_lt {x y : Float} (h : magnitude x < magnitude y) :
    (parts x).number < (parts y).number := by
  have hpow : Nat.pow 2 52 = 4503599627370496 := rfl
  unfold Parts.number
  rcases parts_lt h with hexponent | ⟨hexponent, hsignificand⟩
  · -- a greater exponent is not the least, so the greater significand has its leading bit
    have hbelow : (parts x).significand < 2 ^ 53 := by
      simp only [parts, hpow]
      split <;> simp only <;> omega
    have hleading : 2 ^ 52 ≤ (parts y).significand := by
      revert hexponent
      simp only [parts, hpow]
      split <;> split <;> simp only <;> omega
    calc ((parts x).significand : ℚ) * 2 ^ (parts x).exponent
        < 2 ^ 53 * 2 ^ (parts x).exponent := by
          gcongr
          exact_mod_cast hbelow
      _ = 2 ^ 52 * 2 ^ ((parts x).exponent + 1) := by
          rw [zpow_add₀ two_ne_zero]
          ring
      _ ≤ 2 ^ 52 * 2 ^ (parts y).exponent := by
          gcongr
          · exact one_le_two
          · omega
      _ ≤ (parts y).significand * 2 ^ (parts y).exponent := by
          gcongr
          exact_mod_cast hleading
  · rw [hexponent]
    gcongr

/-- The number that the parts of a double make up is not negative. -/
theorem number_parts_nonneg (x : Float) : 0 ≤ (parts x).number := by
  unfold Parts.number
  positivity

/-- The parts of a zero make up zero. -/
theorem number_parts_of_zero {x : Float} (h : magnitude x = 0) : (parts x).number = 0 := by
  simp [Parts.number, parts, h]

/-- The parts of a double that is no zero make up a positive number. -/
theorem number_parts_pos {x : Float} (h : magnitude x ≠ 0) : 0 < (parts x).number := by
  have hsignificand := significand_pos h
  unfold Parts.number
  positivity

/-- The double with the lower place stands for the smaller number. -/
theorem number_lt_of_rank_lt {x y : Float} (h : rank x < rank y) : number x < number y := by
  have hx := number_parts_nonneg x
  have hy := number_parts_nonneg y
  unfold rank at h
  unfold number
  cases hnegx : isNegative x <;> cases hnegy : isNegative y <;>
    simp only [hnegx, hnegy, if_true, if_false, Bool.false_eq_true] at h ⊢
  · exact number_parts_lt (by omega)
  · omega
  · -- zeros of both signs have one place, so one of the two is no zero
    rcases Nat.eq_zero_or_pos (magnitude x) with hzero | hpos
    · have hlt := number_parts_pos (x := y) (by omega)
      linarith
    · have hlt := number_parts_pos (x := x) (by omega)
      linarith
  · exact neg_lt_neg (number_parts_lt (by omega))

/-- Doubles with one place stand for one number. -/
theorem number_eq_of_rank_eq {x y : Float} (h : rank x = rank y) : number x = number y := by
  have hmagnitude : magnitude x = magnitude y := by
    unfold rank at h
    split at h <;> split at h <;> omega
  have hparts : parts x = parts y := by simp only [parts, hmagnitude]
  by_cases hzero : magnitude x = 0
  · simp [number, number_parts_of_zero hzero, number_parts_of_zero (hmagnitude ▸ hzero)]
  · have hsign : isNegative x = isNegative y := by
      unfold rank at h
      cases hnegx : isNegative x <;> cases hnegy : isNegative y <;>
        simp only [hnegx, hnegy, if_true, if_false, Bool.false_eq_true] at h ⊢ <;> omega
    simp only [number, hparts, hsign]

/-- Places order doubles as the numbers that these stand for. -/
theorem compare_rank (x y : Float) : compare (rank x) (rank y) = compare (number x) (number y) := by
  rcases Int.lt_trichotomy (rank x) (rank y) with h | h | h
  · rw [compare_lt_iff_lt.mpr h, compare_lt_iff_lt.mpr (number_lt_of_rank_lt h)]
  · rw [compare_eq_iff_eq.mpr h, compare_eq_iff_eq.mpr (number_eq_of_rank_eq h)]
  · rw [compare_gt_iff_gt.mpr h, compare_gt_iff_gt.mpr (number_lt_of_rank_lt h)]

/-! ### Doubles put together -/

variable {negative : Bool} {p : Parts}

/-- Parts are read back from the double that they make up. -/
theorem parts_ofParts (h : p.Canonical) : parts (ofParts negative p) = p := by
  have hpow : Nat.pow 2 52 = 4503599627370496 := rfl
  have hsignificand := h.significand_lt
  have hleast := h.least
  obtain ⟨m, q⟩ := p
  rw [ofParts, parts, magnitude_ofMagnitude (packed_lt h.significand_lt h.greatest)]
  simp only [hpow] at hsignificand hleast ⊢
  by_cases hsubnormal : m < 4503599627370496
  · have hexponent : q = -1074 := h.leading.resolve_left (by simpa using hsubnormal)
    have hbiased : m / 4503599627370496 = 0 := by omega
    have hfraction : m % 4503599627370496 = m := by omega
    simp only [hsubnormal, hbiased, hfraction, if_true, hexponent]
  · have hbiased : ((q + 1075).toNat * 4503599627370496 + (m - 4503599627370496)) /
        4503599627370496 = (q + 1075).toNat := by omega
    have hfraction : ((q + 1075).toNat * 4503599627370496 + (m - 4503599627370496)) %
        4503599627370496 = m - 4503599627370496 := by omega
    have hnormal : (q + 1075).toNat ≠ 0 := by omega
    simp only [hsubnormal, hbiased, hfraction, hnormal, if_false, Parts.mk.injEq]
    omega

/-- A double stands for the number of the parts that make it up. -/
theorem number_ofParts (h : p.Canonical) :
    number (ofParts negative p) = if negative then -p.number else p.number := by
  have hnegative : isNegative (ofParts negative p) = negative :=
    isNegative_ofMagnitude (packed_lt h.significand_lt h.greatest)
  rw [number, hnegative, parts_ofParts h]

end Phrasebook.Double
