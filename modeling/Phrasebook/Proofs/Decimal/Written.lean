import Phrasebook.Decimal.Reader
import Phrasebook.Proofs.Decimal.Nearest
import Phrasebook.Text.Split

/-!
# The decimal text of integers

An integer is written as its digits after a minus sign, if it is negative (`toList_toString`). Read
as a numeral, such a text gives the integer itself as a decimal (`ofChars?_toString`), and the double
nearest to that decimal is the one nearest to the integer (`double?_toString`).
-/

namespace Phrasebook

/-! ### Digits -/

/-- The digits of numerals are the decimal digits of the standard library. -/
theorem isDigit_eq (c : Char) : isDigit c = c.isDigit := rfl

/-- A natural is written with digits alone. -/
theorem isDigit_of_mem_toDigits {n : Nat} {c : Char} (h : c ∈ Nat.toDigits 10 n) :
    isDigit c = true := by
  rw [isDigit_eq]
  exact Nat.isDigit_of_mem_toDigits (by decide) (by decide) h

/-- The digits of a natural have its value. -/
theorem digitsValue_toDigits (n : Nat) : digitsValue (Nat.toDigits 10 n) = n :=
  Nat.ofDigitChars_ten_toDigits

/-- The code points of digits. -/
theorem toNat_of_isDigit {c : Char} (h : isDigit c = true) : 48 ≤ c.toNat ∧ c.toNat ≤ 57 := by
  simpa [isDigit, Char.le_def, UInt32.le_iff_toNat_le] using h

/-- A text of digits alone is read as their value. -/
theorem Numeral.unsigned?_of_digits {negative : Bool} {cs : List Char} (hne : cs ≠ [])
    (h : ∀ c ∈ cs, isDigit c = true) :
    unsigned? negative cs = some ⟨negative, digitsValue cs, 0⟩ := by
  have htake : cs.takeWhile isDigit = cs := List.takeWhile_eq_self_iff.mpr h
  have hdrop : cs.dropWhile isDigit = [] := List.dropWhile_eq_nil_iff.mpr h
  have hnonempty : cs.isEmpty = false := by simpa using hne
  simp [unsigned?, htake, hdrop, hnonempty, exponent?]

/-! ### Integers -/

namespace Decimal

/-- The characters of the decimal text of an integer. -/
theorem toList_toString (n : Int) :
    (toString n).toList = (if n < 0 then ['-'] else []) ++ Nat.toDigits 10 n.natAbs := by
  cases n with
  | ofNat m =>
    have hnonneg : ¬ Int.ofNat m < 0 := by
      simp
    rw [if_neg hnonneg]
    exact Nat.toList_repr
  | negSucc m =>
    have hdigits : (toString (Int.negSucc m)).toList = '-' :: (m + 1).repr.toList := by
      rw [Int.toString_eq_repr, Int.repr, String.toList_append]
      rfl
    rw [if_pos (Int.negSucc_lt_zero m), hdigits, Nat.toList_repr]
    rfl

/-- Nothing but digits and a sign is written. -/
theorem mem_toString {n : Int} {c : Char} (h : c ∈ (toString n).toList) :
    c = '-' ∨ isDigit c = true := by
  rw [toList_toString, List.mem_append] at h
  rcases h with hsign | hdigit
  · split at hsign
    · exact Or.inl (List.mem_singleton.mp hsign)
    · cases hsign
  · exact Or.inr (isDigit_of_mem_toDigits hdigit)

/-- An integer is written with nothing but digits and the minus sign. -/
theorem not_mem_toString {n : Int} {c : Char} (hsign : c ≠ '-') (hdigit : isDigit c = false) :
    c ∉ (toString n).toList := by
  intro h
  rcases mem_toString h with rfl | hc
  · exact hsign rfl
  · rw [hdigit] at hc
    cases hc

/-- No character of the decimal text of an integer is blank. -/
theorem isBlank_of_mem_toString {n : Int} {c : Char} (h : c ∈ (toString n).toList) :
    Text.isBlank c = false := by
  rcases mem_toString h with rfl | hdigit
  · decide
  · have hcode := toNat_of_isDigit hdigit
    simp only [Text.isBlank]
    simp
    omega

/-- The decimal text of an integer is read as that integer. -/
theorem ofChars?_toString (n : Int) :
    Numeral.ofChars? (toString n).toList = some (.decimal ⟨n < 0, n.natAbs, 0⟩) := by
  have hsigned (negative : Bool) : Numeral.signed? negative (Nat.toDigits 10 n.natAbs) =
      some (.decimal ⟨negative, n.natAbs, 0⟩) := by
    rw [Numeral.signed?, Numeral.unsigned?_of_digits Nat.toDigits_ne_nil
      fun c hc => isDigit_of_mem_toDigits hc, digitsValue_toDigits]
  rw [toList_toString]
  by_cases hnegative : n < 0
  · simp only [hnegative, if_true, List.cons_append, List.nil_append, Numeral.ofChars?, hsigned,
      decide_true]
  · simp only [hnegative, if_false, List.nil_append, decide_false, ← hsigned]
    have hdigit : ∀ c ∈ Nat.toDigits 10 n.natAbs, isDigit c = true :=
      fun c hc => isDigit_of_mem_toDigits hc
    -- the text begins with a digit and so with no sign
    unfold Numeral.ofChars?
    split
    · next heq => exact absurd (hdigit '+' (by rw [heq]; exact List.mem_cons_self)) (by decide)
    · next heq => exact absurd (hdigit '-' (by rw [heq]; exact List.mem_cons_self)) (by decide)
    · rfl

/-- The double nearest to an integer of 64 bits as a decimal is the one nearest to it as such. -/
theorem toDouble_natAbs {n : Int} (h : n.natAbs ≤ 2 ^ 63) :
    toDouble ⟨n < 0, n.natAbs, 0⟩ = Double.ofInt n := by
  have hlength : (Nat.toDigits 10 n.natAbs).length ≤ 19 :=
    (Nat.length_toDigits_le_iff (by decide) (by decide)).mpr (by omega)
  have hnearest : nearest .double ⟨n < 0, n.natAbs, 0⟩ =
      BinaryFormat.double.nearest n.natAbs 1 := by
    unfold nearest
    by_cases hzero : n.natAbs = 0
    · simp [hzero]
    · have hnear : ¬(((Nat.toDigits 10 n.natAbs).length : Int) + 0 < -farExponent) := by
        simp only [farExponent]
        omega
      have hfar : ¬(farExponent < ((Nat.toDigits 10 n.natAbs).length : Int) + 0) := by
        simp only [farExponent]
        omega
      simp only [hzero, hnear, hfar, or_self, if_false, le_refl, if_true, Int.toNat_zero,
        Nat.pow_eq, pow_zero, mul_one]
  rw [toDouble, hnearest]
  rfl

/-- The decimal text of an integer of 64 bits is read as the double nearest to it. -/
theorem double?_toString {n : Int} (h : n.natAbs ≤ 2 ^ 63) :
    double? (toString n) = some (Double.ofInt n) := by
  rw [double?, ofChars?_toString, Option.map_some, Numeral.toDouble, toDouble_natAbs h]

end Decimal

end Phrasebook
