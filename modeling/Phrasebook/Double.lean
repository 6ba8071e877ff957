/-!
# Doubles taken apart

A finite double is `± m · 2 ^ q` for a significand `m` and an exponent `q`. This module reads these
off its bits and puts them together again, and places the finite doubles on a line: their order is
that of their magnitude bits, counted downwards for negative ones, so that both zeros share the
place 0.
-/

namespace Phrasebook.Double

/-- Whether the sign bit is set. -/
def isNegative (x : Float) : Bool :=
  x.toBits.toNat.testBit 63

/-- The bits below the sign bit, as a number. -/
def magnitude (x : Float) : Nat :=
  x.toBits.toNat % Nat.pow 2 63

/-- The magnitude of the infinities; a greater one belongs to no number at all. -/
def infiniteMagnitude : Nat :=
  0x7FF0000000000000

/-- Whether the double is a number. -/
def isFinite (x : Float) : Bool :=
  magnitude x < infiniteMagnitude

/-- Whether the double stands for no number and no infinity. -/
def isUndefined (x : Float) : Bool :=
  infiniteMagnitude < magnitude x

/-- The place of a finite double among all finite doubles. -/
def rank (x : Float) : Int :=
  if isNegative x then -(magnitude x : Int) else magnitude x

/-- A significand and an exponent of two. -/
structure Parts where
  significand : Nat
  exponent : Int
  deriving DecidableEq, Repr

/-- The parts of the absolute value of a finite double. Below the smallest normal double the
exponent stays at its least; above, the significand has its leading bit. -/
def parts (x : Float) : Parts :=
  let biased : Nat := magnitude x / Nat.pow 2 52
  let fraction : Nat := magnitude x % Nat.pow 2 52
  if biased = 0 then ⟨fraction, -1074⟩ else ⟨fraction + Nat.pow 2 52, (biased : Int) - 1075⟩

/-- The double with a given sign and magnitude. -/
def ofMagnitude (negative : Bool) (bits : Nat) : Float :=
  Float.ofBits (UInt64.ofNat (if negative then Nat.pow 2 63 + bits else bits))

/-- The double of a sign and of parts as `parts` gives them. -/
def ofParts (negative : Bool) (p : Parts) : Float :=
  ofMagnitude negative <|
    if p.significand < Nat.pow 2 52 then p.significand
    else (p.exponent + 1075).toNat * Nat.pow 2 52 + (p.significand - Nat.pow 2 52)

/-- The infinity of a sign. -/
def infinity (negative : Bool) : Float :=
  ofMagnitude negative infiniteMagnitude

/-- A double that is no number. -/
def undefined : Float :=
  ofMagnitude false 0x7FF8000000000000

end Phrasebook.Double
