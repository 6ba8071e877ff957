import Phrasebook.Decimal.Nearest

/-!
# Reading numbers

Two readers of a whole text. An integer is a sign, if its type has one, and decimal digits. A
numeral is an optional sign followed by digits with at most one point among them and an optional
exponent, or by the name of an infinity or of the undefined value, in letters of either case.
-/

namespace Phrasebook

/-- An ASCII decimal digit. -/
def isDigit (c : Char) : Bool :=
  '0' ≤ c && c ≤ '9'

/-- The number written by a list of digits. -/
def digitsValue (cs : List Char) : Nat :=
  cs.foldl (fun n c => 10 * n + (c.toNat - '0'.toNat)) 0

/-- The number written by a whole text of digits, of which there is at least one. -/
def natural? (cs : List Char) : Option Nat :=
  if cs.isEmpty || !cs.all isDigit then none else some (digitsValue cs)

/-- The integer written by a whole text, from `low` to `high`. A minus sign is allowed only if there
are negative integers among these; a plus sign is always. -/
def integer? (low high : Int) (cs : List Char) : Option Int :=
  let value? : Option Int :=
    match cs with
    | '+' :: rest => (natural? rest).map Int.ofNat
    | '-' :: rest => if low < 0 then (natural? rest).map fun n => -(n : Int) else none
    | _ => (natural? cs).map Int.ofNat
  value?.filter fun n => low ≤ n && n ≤ high

/-- The least integer of 64 bits. -/
def minInt64 : Int := -(Nat.pow 2 63)

/-- The greatest integer of 64 bits. -/
def maxInt64 : Int := Nat.pow 2 63 - 1

/-- The 64-bit integer written by a whole text. -/
def int64? (cs : List Char) : Option Int64 :=
  (integer? minInt64 maxInt64 cs).map Int64.ofInt

/-! ### Numerals -/

/-- What a numeral stands for. -/
inductive Numeral where
  | decimal (d : Decimal)
  | infinite (negative : Bool)
  | undefined
  deriving DecidableEq, Repr

namespace Numeral

/-- The exponent part of a numeral, mark included; none counts as zero. -/
def exponent? : List Char → Option Int
  | [] => some 0
  | mark :: rest =>
    if mark = 'e' ∨ mark = 'E' then
      match rest with
      | '+' :: ds => (natural? ds).map Int.ofNat
      | '-' :: ds => (natural? ds).map fun n => -(n : Int)
      | ds => (natural? ds).map Int.ofNat
    else none

/-- The decimal written by a text without its sign. -/
def unsigned? (negative : Bool) (cs : List Char) : Option Decimal :=
  let whole := cs.takeWhile isDigit
  let rest := cs.dropWhile isDigit
  let (fraction, rest) :=
    match rest with
    | '.' :: r => (r.takeWhile isDigit, r.dropWhile isDigit)
    | r => ([], r)
  if whole.isEmpty && fraction.isEmpty then none
  else (exponent? rest).map fun e => ⟨negative, digitsValue (whole ++ fraction), e - fraction.length⟩

/-- The numeral written by a text without its sign. -/
def signed? (negative : Bool) (cs : List Char) : Option Numeral :=
  match unsigned? negative cs with
  | some d => some (.decimal d)
  | none =>
    let name := String.ofList (cs.map Char.toLower)
    if name = "inf" ∨ name = "infinity" then some (.infinite negative)
    else if name = "nan" then some .undefined
    else none

/-- The numeral written by a whole text. -/
def ofChars? : List Char → Option Numeral
  | '+' :: rest => signed? false rest
  | '-' :: rest => signed? true rest
  | cs => signed? false cs

/-- The double nearest to what a numeral stands for. -/
def toDouble : Numeral → Float
  | .decimal d => d.toDouble
  | .infinite negative => Double.infinity negative
  | .undefined => Double.undefined

/-- The double that equals the nearest single-width number. -/
def toSingle : Numeral → Float
  | .decimal d => d.toSingle
  | .infinite negative => Double.infinity negative
  | .undefined => Double.undefined

end Numeral

/-- The double written by a whole text. -/
def double? (s : String) : Option Float :=
  (Numeral.ofChars? s.toList).map Numeral.toDouble

end Phrasebook
