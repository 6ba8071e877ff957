import Phrasebook.Decimal.Reader
import Phrasebook.Json.Cursor

/-!
# Strings and numbers in JSON

The readers of strings, whose escapes may stand for one half of a pair of surrogates, and of
numbers. A number without a fraction and an exponent is an integer if 64 bits hold it. Any other
becomes a double from as many of its digits as an unsigned 64-bit number holds: further digits
before the point count as zeros, further ones after it not at all, and the exponent is applied by
one multiplication or division by a power of ten.
-/

namespace Phrasebook.Json.Reader

/-! ### Strings -/

/-- The value of a hexadecimal digit. -/
def hexValue? (c : Char) : Option Nat :=
  if '0' ≤ c ∧ c ≤ '9' then some (c.toNat - '0'.toNat)
  else if 'a' ≤ c ∧ c ≤ 'f' then some (c.toNat - 'a'.toNat + 10)
  else if 'A' ≤ c ∧ c ≤ 'F' then some (c.toNat - 'A'.toNat + 10)
  else none

/-- The number written by four hexadecimal digits. Four bytes are taken, whatever they are. -/
def hexEscape : Reader Nat := do
  let unread ← get
  if Text.byteSize unread < 4 then fun _ => .error ⟨.endInString, [], 0⟩
  else
    match (unread.take 4).mapM hexValue? with
    | some digits =>
      set (unread.drop 4)
      return digits.foldl (fun n d => 16 * n + d) 0
    | none => fun _ => .error ⟨.invalidEscape, unread, 4⟩

/-- The character an escape of one letter stands for. -/
def shortEscape? (c : Char) : Option Char :=
  if c = '"' ∨ c = '\\' ∨ c = '/' then some c
  else if c = 'b' then some (Char.ofNat 0x08)
  else if c = 'f' then some (Char.ofNat 0x0C)
  else if c = 'n' then some '\n'
  else if c = 'r' then some '\r'
  else if c = 't' then some '\t'
  else none

/-- Passes over a character that has to follow in the escape of a pair. -/
def pairMark (expected : Char) : Reader Unit := do
  match (← get).head? with
  | none => failHere .endInString
  | some c => if c = expected then advance else failAhead .unfinishedPair

/-- The character of an escape by number, after its `u`. The first half of a pair has to be
followed by the escape of the second. -/
def numberedEscape : Reader Char := do
  let first ← hexEscape
  if 0xDC00 ≤ first ∧ first ≤ 0xDFFF then failHere .loneSurrogate
  else if first < 0xD800 ∨ 0xDBFF < first then return Char.ofNat first
  else
    pairMark '\\'
    pairMark 'u'
    let second ← hexEscape
    if second < 0xDC00 ∨ 0xDFFF < second then failHere .loneSurrogate
    else return Char.ofNat ((first - 0xD800) * 0x400 + (second - 0xDC00) + 0x10000)

/-- The characters of a string after its opening quote, up to and over the closing one. -/
def stringRest : List Char → List Char → Reader String
  | [], _ => failHere .endInString
  | _ :: rounds, acc => do
    match (← get).head? with
    | none => failHere .endInString
    | some c =>
      advance
      if c = '"' then return String.ofList acc.reverse
      else if c = '\\' then
        match (← get).head? with
        | none => failHere .endInString
        | some d =>
          match shortEscape? d with
          | some e =>
            advance
            stringRest rounds (e :: acc)
          | none =>
            if d = 'u' then
              advance
              let e ← numberedEscape
              stringRest rounds (e :: acc)
            else failAhead .invalidEscape
      else if c.toNat < 0x20 then failHere .controlCharacter
      else stringRest rounds (c :: acc)

/-- A string, its opening quote still unread. -/
def string : Reader String := do
  advance
  stringRest (← bound) []

/-! ### Numbers -/

/-- The digits that come next. -/
def digits : Reader (List Char) := do
  let unread ← get
  set (unread.dropWhile isDigit)
  return unread.takeWhile isDigit

/-- A significand and the power of ten it is to be multiplied by. -/
structure Scaled where
  significand : Nat
  exponent : Int

/-- The digits before the point: those after the last that 64 bits hold count as zeros. -/
def Scaled.addWhole : Scaled → List Char → Scaled
  | s, [] => s
  | s, d :: rest =>
    let longer := digitsValue [d] + 10 * s.significand
    if longer < Nat.pow 2 64 then Scaled.addWhole { s with significand := longer } rest
    else { s with exponent := s.exponent + (rest.length + 1) }

/-- The digits after the point: those after the last that 64 bits hold are dropped. -/
def Scaled.addFraction : Scaled → List Char → Scaled
  | s, [] => s
  | s, d :: rest =>
    let longer := digitsValue [d] + 10 * s.significand
    if longer < Nat.pow 2 64 then Scaled.addFraction ⟨longer, s.exponent - 1⟩ rest
    else s

/-- The power of ten nearest to `10 ^ e`. -/
def powerOfTen (e : Nat) : Float :=
  Decimal.toDouble ⟨false, 1, e⟩

/-- A double times a power of ten, or `none` if it grows beyond all doubles. A quotient by more than
`10 ^ 308` is taken in steps. -/
def scale (x : Float) (e : Int) : Option Float :=
  if 0 ≤ e then
    if Double.magnitude x = 0 then some x
    else if 308 < e then none
    else
      let product := x * powerOfTen e.toNat
      if Double.isFinite product then some product else none
  else if -308 ≤ e then some (x / powerOfTen (-e).toNat)
  else if Double.magnitude x = 0 then some x
  else scale (x / powerOfTen 308) (e + 308)
termination_by (-e).toNat
decreasing_by omega

/-- The double of a significand and an exponent, read as a number of the given sign. -/
def finishDouble (negative : Bool) (s : Scaled) : Reader Json :=
  match scale (Double.ofInt s.significand) s.exponent with
  | some x => return .float (if negative then -x else x)
  | none => failHere .numberOutOfRange

/-- The digits of an exponent while their number stays below `2 ^ 31`, or the digits that are left
after the first one that takes it beyond. -/
def exponentDigits : Nat → List Char → Nat ⊕ List Char
  | n, [] => .inl n
  | n, d :: rest =>
    let longer := 10 * n + digitsValue [d]
    if longer < Nat.pow 2 31 then exponentDigits longer rest else .inr rest

/-- The exponent of a number, its mark still unread, and with it the end of the number. An exponent
beyond all bounds makes a number too large, or zero if it is negative or the significand is zero. -/
def exponentRest (negative : Bool) (s : Scaled) : Reader Json := do
  advance
  let down ← do
    match (← get).head? with
    | some '+' => advance; pure false
    | some '-' => advance; pure true
    | _ => pure false
  match (← get).head? with
  | none => failHere .endInValue
  | some c =>
    if isDigit c then
      let unread ← get
      match exponentDigits 0 (← digits) with
      | .inl e => finishDouble negative { s with exponent := s.exponent + if down then -(e : Int) else e }
      | .inr left =>
        if s.significand ≠ 0 ∧ !down then
          set (left ++ unread.dropWhile isDigit)
          failHere .numberOutOfRange
        else return .float (if negative then -0.0 else 0.0)
    else failAhead .invalidNumber

/-- The integer of a sign and digits, or the double nearest to it if 64 bits do not hold it. Minus
zero is a double. -/
def wholeNumber (negative : Bool) (whole : List Char) : Reader Json :=
  let s := Scaled.addWhole ⟨0, 0⟩ whole
  if s.exponent ≠ 0 then finishDouble negative s
  else if !negative then return .int s.significand
  else if s.significand = 0 ∨ Nat.pow 2 63 < s.significand then
    return .float (-Double.ofInt s.significand)
  else return .int (-(s.significand : Int))

/-- A number after its sign. -/
def unsignedNumber (negative : Bool) : Reader Json := do
  match (← get).head? with
  | none => failHere .endInValue
  | some c =>
    if !isDigit c then failAhead .invalidNumber
    else
      let whole ← if c = '0' then do advance; pure ['0'] else digits
      let next := (← get).head?
      if c = '0' ∧ next.any isDigit then failAhead .invalidNumber
      else if next = some '.' then
        advance
        let fraction ← digits
        if fraction.isEmpty then
          failAhead (if (← get).isEmpty then .endInValue else .invalidNumber)
        else
          let s := (Scaled.addWhole ⟨0, 0⟩ whole).addFraction fraction
          let after := (← get).head?
          if after = some 'e' ∨ after = some 'E' then exponentRest negative s
          else finishDouble negative s
      else if next = some 'e' ∨ next = some 'E' then
        exponentRest negative (Scaled.addWhole ⟨0, 0⟩ whole)
      else wholeNumber negative whole

/-- A number, its first character still unread. -/
def number : Reader Json := do
  match (← get).head? with
  | some '-' =>
    advance
    unsignedNumber true
  | _ => unsignedNumber false

end Phrasebook.Json.Reader
