import Phrasebook.Decimal.Nearest

/-!
# The shortest decimal of a double

A double is written with the fewest digits that read back as the same double, and of these with the
digits nearest to it. Candidates are searched grid by grid, from one significant digit upwards: on
each grid the two neighbours of the value are tested against the interval of reals that round to it.
-/

namespace Phrasebook

/-- Which of two equally near decimals is taken. -/
inductive TieRule where
  | up
  | even
  deriving DecidableEq, Repr

/-- A positive double seen against the decimal grids: in units of `unitNum / unitDen` its value is
`4 · significand`, the reals that round to it reach from `lower` to `upper`, and these two ends are
among them if `closed`. -/
structure RoundingInterval where
  lower : Nat
  value : Nat
  upper : Nat
  closed : Bool
  unitNum : Nat
  unitDen : Nat

namespace RoundingInterval

/-- The interval of a positive double. The gap below a power of two is half the gap above, save at
the least exponent. -/
def ofParts (p : Double.Parts) : RoundingInterval :=
  let m := p.significand
  let (num, den) := BinaryFormat.scaleDown (2 - p.exponent) 1 1
  { lower := if m = Nat.pow 2 52 ∧ -1074 < p.exponent then 4 * m - 1 else 4 * m - 2
    value := 4 * m
    upper := 4 * m + 2
    closed := m % 2 = 0
    unitNum := num
    unitDen := den }

/-- The least `k` with the value below `10 ^ k`. -/
def pointPosition (i : RoundingInterval) : Int :=
  let num := i.value * i.unitNum
  let den := i.unitDen
  if den ≤ num then (Nat.toDigits 10 (num / den)).length
  else
    let zeros := (Nat.toDigits 10 (den / num)).length - 1
    if num * Nat.pow 10 zeros = den then 1 - (zeros : Int) else -(zeros : Int)

/-- Whether `d` steps of a grid lie in the interval, where `a / b` is the unit measured in steps. -/
def holds (i : RoundingInterval) (a b d : Nat) : Bool :=
  if i.closed then i.lower * a ≤ d * b && d * b ≤ i.upper * a
  else i.lower * a < d * b && d * b < i.upper * a

/-- The number of steps of the grid `10 ^ e` that is in the interval and nearest to the value, if
the grid has a point there. -/
def onGrid? (i : RoundingInterval) (tie : TieRule) (e : Int) : Option Nat :=
  let a := i.unitNum * Nat.pow 10 (-e).toNat
  let b := i.unitDen * Nat.pow 10 e.toNat
  let below := i.value * a / b
  let above := below + 1
  let past := i.value * a - below * b
  let short := above * b - i.value * a
  match i.holds a b below, i.holds a b above with
  | false, false => none
  | true, false => some below
  | false, true => some above
  | true, true =>
    if past < short then some below
    else if short < past then some above
    else match tie with
      | .up => some above
      | .even => some (if below % 2 = 0 then below else above)

/-- The first hit on the grids `10 ^ e`, `10 ^ (e - 1)`, …, with its grid. -/
def firstHit (i : RoundingInterval) (tie : TieRule) : Nat → Int → Nat × Int
  | 0, e => (i.value * i.unitNum * Nat.pow 10 (-e).toNat / (i.unitDen * Nat.pow 10 e.toNat), e)
  | grids + 1, e =>
    match i.onGrid? tie e with
    | some d => (d, e)
    | none => firstHit i tie grids (e - 1)

end RoundingInterval

/-- Significant digits, of which the first is not zero, and the place of the point: the number is
`0.d₁d₂… · 10 ^ point`. -/
structure Digits where
  digits : List Char
  point : Int
  deriving DecidableEq, Repr

namespace Digits

/-- The digits of `n · 10 ^ e`, without the zeros at their end; zero is the digit `0` before the
point. -/
def ofScaled (n : Nat) (e : Int) : Digits :=
  let all := Nat.toDigits 10 n
  let significant := (all.reverse.dropWhile (· = '0')).reverse
  if significant.isEmpty then ⟨['0'], 1⟩ else ⟨significant, all.length + e⟩

/-- The shortest digits that read back as a finite double. Seventeen always do. -/
def ofDouble (tie : TieRule) (x : Float) : Digits :=
  let p := Double.parts x
  if p.significand = 0 then ofScaled 0 0
  else
    let i := RoundingInterval.ofParts p
    let (n, e) := i.firstHit tie 17 (i.pointPosition - 1)
    ofScaled n e

end Digits

/-! ### Writing -/

/-- How a double is written. -/
structure FloatStyle where
  /-- Which of two equally near digit strings is taken. -/
  tie : TieRule
  /-- Whether a number whose point stands at the given place is written without an exponent. -/
  positional : Int → Bool
  /-- What follows a whole number. -/
  wholeMark : List Char
  /-- What stands before an exponent that is not negative. -/
  exponentPlus : List Char

namespace FloatStyle

/-- Digits with the point in its place. -/
def writePositional (style : FloatStyle) (d : Digits) : List Char :=
  if d.point ≤ 0 then
    '0' :: '.' :: (List.replicate (-d.point).toNat '0' ++ d.digits)
  else if d.digits.length ≤ d.point.toNat then
    d.digits ++ List.replicate (d.point.toNat - d.digits.length) '0' ++ style.wholeMark
  else d.digits.take d.point.toNat ++ '.' :: d.digits.drop d.point.toNat

/-- Digits with the point after the first, and the exponent that puts it in its place. -/
def writeExponent (style : FloatStyle) (d : Digits) : List Char :=
  let fraction := d.digits.drop 1
  let e := d.point - 1
  d.digits.take 1 ++ (if fraction.isEmpty then [] else '.' :: fraction) ++
    'e' :: (if e < 0 then ['-'] else style.exponentPlus) ++ Nat.toDigits 10 e.natAbs

/-- The text of a double. -/
def write (style : FloatStyle) (x : Float) : List Char :=
  if Double.isUndefined x then "NaN".toList
  else
    let sign := if Double.isNegative x then ['-'] else []
    if Double.isFinite x then
      let d := Digits.ofDouble style.tie x
      sign ++ if style.positional d.point then style.writePositional d else style.writeExponent d
    else sign ++ "inf".toList

end FloatStyle

end Phrasebook
