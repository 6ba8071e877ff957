import Phrasebook.Proofs.Decimal.Integer
import Phrasebook.Proofs.Decimal.Nearest
import Phrasebook.Proofs.Decimal.Written
import Phrasebook.Proofs.Double.Order
import Phrasebook.Value

/-!
# The loose order of values

Two values are compared as integers, as doubles or as texts. Doubles may have no order, so the loose
order is put together here once more with the comparison of doubles in its place (`compare?`). As
whatever looks numeric is read as a finite double (`isFinite_of_numeric?`), there always is an
order, and it is the one by places (`compare?_eq`). The same way of comparing is taken in both
directions, so the order is reversed when the values change sides (`compare_swap`), and a value is
equal to itself (`compare_self`), the undefined double included, which is compared by its text.
-/

namespace Phrasebook.Value

/-- The loose order of two values, unless it comes down to two doubles without an order. -/
def compare? (a b : Value) : Option Ordering :=
  match a, b with
  | number m, number n => some (Ord.compare m.toInt n.toInt)
  | _, _ =>
    match a.numeric?, b.numeric? with
    | some x, some y => Double.compare? x y
    | _, _ => some (Ord.compare a.display b.display)

/-- What a value is read as is finite. -/
theorem isFinite_of_numeric? {v : Value} {x : Float} (h : v.numeric? = some x) :
    Double.isFinite x = true := by
  cases v with
  | number n =>
    obtain rfl := Option.some.inj h
    have hlow := n.le_toInt
    have hhigh := n.toInt_lt
    exact Double.isFinite_ofInt (by omega)
  | float y =>
    rw [numeric?] at h
    split at h
    · next hfinite =>
      obtain rfl := Option.some.inj h
      exact hfinite
    · cases h
  | string s => exact (Option.filter_eq_some_iff.mp h).2
  | bool b => cases h

/-! ### One order for both directions -/

/-- Values that are not both integers are compared by what they are read as. -/
theorem compare_eq_compareByReading {a b : Value} (h : ∀ m n, a = number m → b ≠ number n) :
    a.compare b = a.compareByReading b := by
  unfold compare
  split
  · next m n => exact absurd rfl (h m n rfl)
  · rfl

/-- Values that are not both integers are compared by what they are read as. -/
theorem compare?_eq_of_reading {a b : Value} (h : ∀ m n, a = number m → b ≠ number n) :
    a.compare? b = some (a.compareByReading b) := by
  unfold compare? compareByReading
  split
  · next m n => exact absurd rfl (h m n rfl)
  · cases hx : a.numeric? with
    | none => rfl
    | some x =>
      cases hy : b.numeric? with
      | none => rfl
      | some y =>
        exact Double.compare?_of_isFinite (isFinite_of_numeric? hx) (isFinite_of_numeric? hy)

/-- Any two values have an order. -/
theorem compare?_eq (a b : Value) : a.compare? b = some (a.compare b) := by
  by_cases h : ∃ m n, a = number m ∧ b = number n
  · obtain ⟨m, n, rfl, rfl⟩ := h
    rfl
  · have hreading : ∀ m n, a = number m → b ≠ number n := fun m n ha hb => h ⟨m, n, ha, hb⟩
    rw [compare?_eq_of_reading hreading, compare_eq_compareByReading hreading]

/-- Two values that are read compare the other way round when they are exchanged. -/
theorem compareByReading_swap (a b : Value) :
    b.compareByReading a = (a.compareByReading b).swap := by
  unfold compareByReading
  cases a.numeric? with
  | none =>
    cases b.numeric? <;> exact Std.OrientedOrd.eq_swap
  | some x =>
    cases b.numeric? <;> exact Std.OrientedOrd.eq_swap

/-- The order is reversed when the values change sides. -/
theorem compare_swap (a b : Value) : b.compare a = (a.compare b).swap := by
  by_cases h : ∃ m n, a = number m ∧ b = number n
  · obtain ⟨m, n, rfl, rfl⟩ := h
    exact Std.OrientedOrd.eq_swap
  · rw [compare_eq_compareByReading fun m n ha hb => h ⟨m, n, ha, hb⟩,
      compare_eq_compareByReading fun m n hb ha => h ⟨n, m, ha, hb⟩]
    exact compareByReading_swap a b

/-- A value is equal to itself. -/
theorem compare_self (a : Value) : a.compare a = .eq := by
  have hswap := compare_swap a a
  cases h : a.compare a with
  | eq => rfl
  | lt => rw [h] at hswap; cases hswap
  | gt => rw [h] at hswap; cases hswap

/-! ### Values of integers

An integer is given as a number or as its decimal text (`Form`); the second is what literals in
templates and texts typed by users amount to. Two numbers are compared exactly. As soon as one of
the two is a text, both are read as the doubles nearest to them (`numeric?_write`) and compared as
such, that is, with all but their 53 leading bits rounded away (`compare_write`).
-/

open Double (roundInt)

/-- How an integer is given. -/
inductive Form where
  | number
  | text
  deriving DecidableEq, Repr

/-- The value that gives an integer in a form. -/
def Form.write (n : Int64) : Form → Value
  | number => .number n
  | text => .string (toString n.toInt)

/-- An integer of 64 bits has an absolute value of at most the sixty-third power of two. -/
theorem natAbs_toInt_le (n : Int64) : n.toInt.natAbs ≤ 2 ^ 63 := by
  have hlow := n.le_toInt
  have hhigh := n.toInt_lt
  omega

/-- In either form an integer is read as the double nearest to it. -/
theorem numeric?_write (n : Int64) (f : Form) :
    (f.write n).numeric? = some (Double.ofInt n.toInt) := by
  cases f with
  | number => rfl
  | text =>
    have htrim : Text.trim (toString n.toInt).toList = (toString n.toInt).toList :=
      Text.trim_of_forall_not_blank fun c hc => Decimal.isBlank_of_mem_toString hc
    rw [Form.write, numeric?, htrim, String.ofList_toList,
      Decimal.double?_toString (natAbs_toInt_le n)]
    exact Option.filter_some_pos (Double.isFinite_ofInt (natAbs_toInt_le n))

/-- Integers that are not both numbers are compared as doubles. -/
theorem compareByReading_write (n m : Int64) (f g : Form) :
    (f.write n).compareByReading (g.write m) =
      Ord.compare (roundInt n.toInt) (roundInt m.toInt) := by
  rw [compareByReading, numeric?_write, numeric?_write]
  exact Double.compare_rank_ofInt (natAbs_toInt_le n) (natAbs_toInt_le m)

/-- Two numbers are compared exactly, and all else as doubles. -/
theorem compare_write (n m : Int64) (f g : Form) :
    (f.write n).compare (g.write m) =
      if f = .number ∧ g = .number then Ord.compare n.toInt m.toInt
      else Ord.compare (roundInt n.toInt) (roundInt m.toInt) := by
  cases f with
  | number =>
    cases g with
    | number => rfl
    | text => exact compareByReading_write n m .number .text
  | text => exact compareByReading_write n m .text g

end Phrasebook.Value
