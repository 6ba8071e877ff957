import Phrasebook.Double

/-!
# Rounding to the nearest double

A quotient of naturals is rounded to the nearest number of a binary format, a half going to the even
neighbour. The computation is exact: no digit of the quotient is dropped before the one rounding.
A `Decimal` is such a quotient, and so is an integer.
-/

namespace Phrasebook

/-- A decimal number: `± digits · 10 ^ exponent`. -/
structure Decimal where
  negative : Bool
  digits : Nat
  exponent : Int
  deriving DecidableEq, Repr

/-- A binary format: the bits of a significand and the range of exponents of its last bit. -/
structure BinaryFormat where
  precision : Nat
  minExponent : Int
  maxExponent : Int

namespace BinaryFormat

/-- The format of doubles. -/
def double : BinaryFormat := ⟨53, -1074, 971⟩

/-- The format of numbers half as wide. -/
def single : BinaryFormat := ⟨24, -149, 104⟩

/-! ### Rounding a quotient -/

/-- The natural nearest to `num / den`, the even one of two equally near. -/
def roundHalfEven (num den : Nat) : Nat :=
  let q := num / den
  let r := num % den
  if 2 * r < den then q
  else if den < 2 * r then q + 1
  else if q % 2 = 0 then q else q + 1

/-- The quotient `num / den` divided by `2 ^ q`, again as a quotient. -/
def scaleDown (q : Int) (num den : Nat) : Nat × Nat :=
  if 0 ≤ q then (num, den * Nat.pow 2 q.toNat) else (num * Nat.pow 2 (-q).toNat, den)

/-- The exponent of the greatest power of two that is at most `num / den`. -/
def floorLog2 (num den : Nat) : Int :=
  let e := (num.log2 : Int) - den.log2
  let (n, d) := scaleDown e num den
  if n < d then e - 1 else e

/-- The number of the format nearest to `num / den`, or `none` when that lies beyond them all. -/
def nearest (fmt : BinaryFormat) (num den : Nat) : Option Double.Parts :=
  if num = 0 then some ⟨0, fmt.minExponent⟩
  else
    let q := max fmt.minExponent (floorLog2 num den - ((fmt.precision : Int) - 1))
    let (n, d) := scaleDown q num den
    let m := roundHalfEven n d
    let p : Double.Parts :=
      if m = Nat.pow 2 fmt.precision then ⟨Nat.pow 2 (fmt.precision - 1), q + 1⟩ else ⟨m, q⟩
    if fmt.maxExponent < p.exponent then none else some p

end BinaryFormat

/-! ### Decimals and integers -/

namespace Decimal

/-- A decimal above `10 ^ farExponent` is beyond every format here, and one below its inverse rounds
to zero in every one. -/
def farExponent : Int := 400

/-- The number of the format nearest to the absolute value of a decimal. -/
def nearest (fmt : BinaryFormat) (d : Decimal) : Option Double.Parts :=
  let size := ((Nat.toDigits 10 d.digits).length : Int) + d.exponent
  if d.digits = 0 ∨ size < -farExponent then fmt.nearest 0 1
  else if farExponent < size then none
  else if 0 ≤ d.exponent then fmt.nearest (d.digits * Nat.pow 10 d.exponent.toNat) 1
  else fmt.nearest d.digits (Nat.pow 10 (-d.exponent).toNat)

/-- The double nearest to a decimal; one out of range becomes infinite. -/
def toDouble (d : Decimal) : Float :=
  match d.nearest .double with
  | some p => Double.ofParts d.negative p
  | none => Double.infinity d.negative

/-- The double that equals the single-width number nearest to a decimal. -/
def toSingle (d : Decimal) : Float :=
  match d.nearest .single with
  | some p =>
    let (num, den) := BinaryFormat.scaleDown (-p.exponent) p.significand 1
    match BinaryFormat.double.nearest num den with
    | some p => Double.ofParts d.negative p
    | none => Double.infinity d.negative
  | none => Double.infinity d.negative

end Decimal

/-- The double nearest to an integer. -/
def Double.ofInt (n : Int) : Float :=
  match BinaryFormat.double.nearest n.natAbs 1 with
  | some p => Double.ofParts (n < 0) p
  | none => Double.infinity (n < 0)

end Phrasebook
