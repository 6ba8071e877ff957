import Phrasebook.Proofs.Decimal.Written

/-!
# Integers as they are typed

A typed integer is digits, perhaps with a sign before them (`TypedInteger`), and the reader accepts
exactly these texts, up to the bounds of its type (`int64?_eq_some_iff`). The same integer can be
typed in many ways, with a plus sign or with zeros in front (`isPadded`). Of these only one is the
decimal text that is written for the integer, the one without either (`toList_toString_eq_iff`).
-/

namespace Phrasebook

/-- At least one digit, and nothing else. -/
def IsDigits (cs : List Char) : Prop :=
  cs ≠ [] ∧ ∀ c ∈ cs, isDigit c = true

/-- The texts that an integer can be typed as. -/
inductive TypedInteger : List Char → Int → Prop
  | bare {ds : List Char} : IsDigits ds → TypedInteger ds (digitsValue ds)
  | plus {ds : List Char} : IsDigits ds → TypedInteger ('+' :: ds) (digitsValue ds)
  | minus {ds : List Char} : IsDigits ds → TypedInteger ('-' :: ds) (-digitsValue ds)

/-- Whether a typed integer begins with a plus sign, or with a zero that is not all of it. -/
def isPadded : List Char → Bool
  | '+' :: _ => true
  | '-' :: '0' :: _ => true
  | '0' :: _ :: _ => true
  | _ => false

/-! ### What is read -/

/-- A natural is read from digits and nothing else, and is their value. -/
theorem natural?_eq_some_iff {cs : List Char} {n : Nat} :
    natural? cs = some n ↔ IsDigits cs ∧ digitsValue cs = n := by
  have hcheck : (cs.isEmpty || !cs.all isDigit) = false ↔ IsDigits cs := by
    simp [IsDigits]
  unfold natural?
  split
  · next h =>
    have hnot : ¬ IsDigits cs := fun hdigits => by
      rw [hcheck.mpr hdigits] at h
      cases h
    simp [hnot]
  · next h =>
    have hdigits := hcheck.mp (Bool.not_eq_true _ ▸ h)
    simp [hdigits]

/-- Text that begins with a digit begins with no sign. -/
theorem IsDigits.head_ne {c sign : Char} {cs : List Char} (h : IsDigits (c :: cs))
    (hsign : isDigit sign = false) : c ≠ sign := by
  rintro rfl
  have hc := h.2 c List.mem_cons_self
  rw [hsign] at hc
  cases hc

/-- The typed integers are read, each as far as it is within the bounds. -/
theorem integer?_eq_some_iff {low high : Int} (hlow : low < 0) {cs : List Char} {n : Int} :
    integer? low high cs = some n ↔ TypedInteger cs n ∧ low ≤ n ∧ n ≤ high := by
  unfold integer?
  rw [Option.filter_eq_some_iff]
  simp only [Bool.and_eq_true, decide_eq_true_eq]
  refine and_congr_left fun _ => ?_
  constructor
  · intro h
    split at h
    · obtain ⟨m, hm, rfl⟩ := Option.map_eq_some_iff.mp h
      obtain ⟨hdigits, rfl⟩ := natural?_eq_some_iff.mp hm
      exact .plus hdigits
    · rw [if_pos hlow] at h
      obtain ⟨k, hk, rfl⟩ := Option.map_eq_some_iff.mp h
      obtain ⟨m, hm, hcast⟩ := Option.bind_eq_some_iff.mp hk
      obtain rfl := Option.some.inj hcast
      obtain ⟨hdigits, rfl⟩ := natural?_eq_some_iff.mp hm
      exact .minus hdigits
    · obtain ⟨m, hm, rfl⟩ := Option.map_eq_some_iff.mp h
      obtain ⟨hdigits, rfl⟩ := natural?_eq_some_iff.mp hm
      exact .bare hdigits
  · intro h
    cases h with
    | bare hdigits =>
      have hread := natural?_eq_some_iff.mpr ⟨hdigits, rfl⟩
      have hplus : isDigit '+' = false := by decide
      have hminus : isDigit '-' = false := by decide
      split
      · exact absurd rfl (hdigits.head_ne hplus)
      · exact absurd rfl (hdigits.head_ne hminus)
      · rw [hread]
        rfl
    | plus hdigits => simp [natural?_eq_some_iff.mpr ⟨hdigits, rfl⟩]
    | minus hdigits => simp [natural?_eq_some_iff.mpr ⟨hdigits, rfl⟩, hlow]

/-- A text is read as an integer of 64 bits just when the integer can be typed so. -/
theorem int64?_eq_some_iff {cs : List Char} {n : Int64} :
    int64? cs = some n ↔ TypedInteger cs n.toInt := by
  have hmin : minInt64 = -2 ^ 63 := rfl
  have hmax : maxInt64 = 2 ^ 63 - 1 := rfl
  unfold int64?
  rw [Option.map_eq_some_iff]
  constructor
  · rintro ⟨m, hm, rfl⟩
    obtain ⟨htyped, hlow, hhigh⟩ := (integer?_eq_some_iff (by decide)).mp hm
    rwa [Int64.toInt_ofInt_of_le (by omega) (by omega)]
  · intro h
    have hlow := n.le_toInt
    have hhigh := n.toInt_lt
    refine ⟨n.toInt, (integer?_eq_some_iff (by decide)).mpr ⟨h, ?_, ?_⟩, Int64.ofInt_toInt n⟩
    · omega
    · omega

/-! ### What is written -/

/-- A digit is the one that is written for its value. -/
theorem digitChar_of_isDigit {c : Char} (h : isDigit c = true) :
    Nat.digitChar (c.toNat - 48) = c := by
  have hcode := toNat_of_isDigit h
  refine Char.toNat_inj.mp ?_
  rw [Nat.toNat_digitChar_of_lt_ten (by omega)]
  omega

/-- Further digits of a number that is not zero are written behind it. -/
theorem toDigits_foldl {cs : List Char} (h : ∀ c ∈ cs, isDigit c = true) {n : Nat} (hn : 0 < n) :
    Nat.toDigits 10 (cs.foldl (fun n c => 10 * n + (c.toNat - '0'.toNat)) n) =
      Nat.toDigits 10 n ++ cs := by
  induction cs generalizing n with
  | nil => simp
  | cons c cs ih =>
    have hc : isDigit c = true := h c List.mem_cons_self
    have hcode := toNat_of_isDigit hc
    have hsmall : c.toNat - '0'.toNat < 10 := by
      have hzero : '0'.toNat = 48 := rfl
      omega
    have hlast : Nat.toDigits 10 (c.toNat - '0'.toNat) = [c] := by
      rw [Nat.toDigits_of_lt_base hsmall]
      exact congrArg (fun d => [d]) (digitChar_of_isDigit hc)
    rw [List.foldl_cons, ih (fun d hd => h d (List.mem_cons_of_mem _ hd)) (by omega),
      ← Nat.toDigits_append_toDigits (by decide) hn hsmall, hlast, List.append_assoc]
    rfl

/-- Digits that do not begin with a zero are the ones that are written for their value. -/
theorem toDigits_digitsValue {c : Char} {cs : List Char} (h : IsDigits (c :: cs)) (hc : c ≠ '0') :
    Nat.toDigits 10 (digitsValue (c :: cs)) = c :: cs := by
  have hdigit : isDigit c = true := h.2 c List.mem_cons_self
  have hcode := toNat_of_isDigit hdigit
  have hne : c.toNat ≠ 48 := fun heq => hc (Char.toNat_inj.mp heq)
  have hfirst : Nat.toDigits 10 (c.toNat - 48) = [c] := by
    rw [Nat.toDigits_of_lt_base (by omega), digitChar_of_isDigit hdigit]
  have hvalue : digitsValue (c :: cs) =
      cs.foldl (fun n c => 10 * n + (c.toNat - '0'.toNat)) (c.toNat - 48) := by
    simp [digitsValue]
  rw [hvalue, toDigits_foldl (fun d hd => h.2 d (List.mem_cons_of_mem _ hd)) (by omega), hfirst]
  rfl

/-- Only zero is written with a zero in front. -/
theorem toDigits_ne_zero_cons {n : Nat} (hn : 0 < n) (cs : List Char) :
    Nat.toDigits 10 n ≠ '0' :: cs := by
  induction n using Nat.strong_induction_on generalizing cs with
  | _ n ih =>
    by_cases hsmall : n < 10
    · rw [Nat.toDigits_of_lt_base hsmall]
      intro h
      have hcode := congrArg Char.toNat (List.cons.inj h).1
      rw [Nat.toNat_digitChar_of_lt_ten hsmall] at hcode
      have hzero : '0'.toNat = 48 := rfl
      omega
    · rw [Nat.toDigits_of_base_le (by decide) (by omega)]
      intro h
      cases hfront : Nat.toDigits 10 (n / 10) with
      | nil => exact Nat.toDigits_ne_nil hfront
      | cons d ds =>
        rw [hfront, List.cons_append] at h
        obtain ⟨rfl, -⟩ := List.cons.inj h
        exact ih (n / 10) (by omega) (by omega) ds hfront

/-- No natural is written with a zero in front of further digits. -/
theorem toDigits_ne_zero_cons_cons (n : Nat) (d : Char) (cs : List Char) :
    Nat.toDigits 10 n ≠ '0' :: d :: cs := by
  rcases Nat.eq_zero_or_pos n with rfl | hn
  · rw [Nat.toDigits_zero]
    simp
  · exact toDigits_ne_zero_cons hn _

/-- An integer that is a natural is written with its digits alone. -/
theorem toList_toString_natCast (n : Nat) : (toString (n : Int)).toList = Nat.toDigits 10 n := by
  have hnonneg : ¬ (n : Int) < 0 := by omega
  rw [Decimal.toList_toString, if_neg hnonneg]
  rfl

/-- Digits that do not begin with a zero are not padded. -/
theorem isPadded_of_digit {c : Char} {cs : List Char} (h : IsDigits (c :: cs)) (hc : c ≠ '0') :
    isPadded (c :: cs) = false := by
  unfold isPadded
  split
  · next heq => exact absurd (List.cons.inj heq).1 (h.head_ne rfl)
  · next heq => exact absurd (List.cons.inj heq).1 (h.head_ne rfl)
  · next heq => exact absurd (List.cons.inj heq).1 hc
  · rfl

/-- A negative integer is written with a minus sign and the digits of its absolute value. -/
theorem toList_toString_neg {n : Nat} (hn : 0 < n) :
    (toString (-(n : Int))).toList = '-' :: Nat.toDigits 10 n := by
  have hnegative : -(n : Int) < 0 := by omega
  rw [Decimal.toList_toString, if_pos hnegative, Int.natAbs_neg, Int.natAbs_natCast]
  rfl

/-- The decimal text of an integer is the one way to type it without a plus sign and without
needless zeros in front. -/
theorem toList_toString_eq_iff {cs : List Char} {n : Int} (h : TypedInteger cs n) :
    (toString n).toList = cs ↔ isPadded cs = false := by
  cases h with
  | bare hdigits =>
    rw [toList_toString_natCast]
    cases cs with
    | nil => exact absurd rfl hdigits.1
    | cons c rest =>
      by_cases hc : c = '0'
      · -- a zero is its own text when it stands alone, and padding before further digits
        subst hc
        cases rest with
        | nil => decide
        | cons d rest =>
          exact iff_of_false (toDigits_ne_zero_cons_cons _ d rest) (by simp [isPadded])
      · exact iff_of_true (toDigits_digitsValue hdigits hc) (isPadded_of_digit hdigits hc)
  | @plus ds hdigits =>
    refine iff_of_false (fun heq => ?_) (by simp [isPadded])
    have hplus : '+' ∉ (toString (digitsValue ds : Int)).toList :=
      Decimal.not_mem_toString (by decide) (by decide)
    exact hplus (heq ▸ List.mem_cons_self)
  | @minus ds hdigits =>
    cases ds with
    | nil => exact absurd rfl hdigits.1
    | cons c rest =>
      by_cases hc : c = '0'
      · -- the text of zero has no sign, and that of another value no zero behind the sign
        subst hc
        refine iff_of_false (fun heq => ?_) (by simp [isPadded])
        rcases Nat.eq_zero_or_pos (digitsValue ('0' :: rest)) with hzero | hpositive
        · rw [hzero] at heq
          have hfirst : some '0' = some '-' := congrArg List.head? heq
          cases hfirst
        · rw [toList_toString_neg hpositive] at heq
          exact toDigits_ne_zero_cons hpositive rest (List.cons.inj heq).2
      · have hself := toDigits_digitsValue hdigits hc
        have hpositive : 0 < digitsValue (c :: rest) := by
          refine Nat.pos_of_ne_zero fun hzero => hc ?_
          rw [hzero, Nat.toDigits_zero] at hself
          exact (List.cons.inj hself).1.symm
        refine iff_of_true ?_ (by simp [isPadded, hc])
        rw [toList_toString_neg hpositive, hself]

end Phrasebook
