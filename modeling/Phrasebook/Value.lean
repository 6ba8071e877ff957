import Phrasebook.Decimal.Reader
import Phrasebook.Decimal.Shortest
import Phrasebook.Json.Basic
import Phrasebook.Text.Split

/-!
# Parameter values

A parameter of an expansion is an integer, a double, a string or a truth value. It is read in two
ways: as its text, where a template shows it, and as one side of a comparison, where a clause asks
about it. Comparisons are loose: integers are compared as such, whatever else looks numeric on both
sides as doubles, and the rest by text.
-/

namespace Phrasebook

/-- A value of a parameter. -/
inductive Value where
  | number (n : Int64)
  | float (x : Float)
  | string (s : String)
  | bool (b : Bool)
  deriving Inhabited

namespace Value

/-- Doubles where a template shows them: a half goes up, there is never an exponent, and a whole
number has no point. -/
def floatStyle : FloatStyle :=
  ⟨.up, fun _ => true, [], []⟩

/-- The text of a double. -/
def floatText (x : Float) : String :=
  String.ofList (floatStyle.write x)

/-- The text of a value. -/
def display : Value → String
  | number n => toString n.toInt
  | float x => floatText x
  | string s => s
  | bool b => if b then "true" else "false"

/-! ### Readings -/

/-- The integer, if the value is one. -/
def asNumber? : Value → Option Int64
  | number n => some n
  | _ => none

/-- The double, if the value is one or is an integer. -/
def asFloat? : Value → Option Float
  | number n => some (Double.ofInt n.toInt)
  | float x => some x
  | _ => none

/-- The string, if the value is one. -/
def asString? : Value → Option String
  | string s => some s
  | _ => none

/-- The finite double that a value looks like: an integer or a finite double itself, or the one that
a string holds between blanks. -/
def numeric? : Value → Option Float
  | number n => some (Double.ofInt n.toInt)
  | float x => if Double.isFinite x then some x else none
  | string s => (double? (String.ofList (Text.trim s.toList))).filter Double.isFinite
  | bool _ => none

/-- Whether two values are of one kind and equal. As doubles are, an undefined one differs from
itself and the zeros of both signs are equal. -/
def same : Value → Value → Bool
  | number m, number n => m == n
  | float x, float y => x == y
  | string s, string t => s == t
  | bool a, bool b => a == b
  | _, _ => false

/-! ### Order -/

/-- The order of two values that are not both integers. -/
def compareByReading (a b : Value) : Ordering :=
  match a.numeric?, b.numeric? with
  | some x, some y => Ord.compare (Double.rank x) (Double.rank y)
  | _, _ => Ord.compare a.display b.display

/-- The loose order of two values. -/
def compare (a b : Value) : Ordering :=
  match a, b with
  | number m, number n => Ord.compare m.toInt n.toInt
  | _, _ => compareByReading a b

/-! ### Values from elsewhere -/

/-- The value of an integer: a double if 64 bits with a sign do not hold it. -/
def ofInt (n : Int) : Value :=
  if minInt64 ≤ n ∧ n ≤ maxInt64 then number (Int64.ofInt n) else float (Double.ofInt n)

/-- The value of a JSON value. There is none for `null`; an array or an object becomes the string
of its JSON text. -/
def ofJson? : Json → Option Value
  | .null => none
  | .bool b => some (bool b)
  | .int n => some (ofInt n)
  | .float x => some (float x)
  | .string s => some (string s)
  | .array items => some (string (Json.array items).compact)
  | .object members => some (string (Json.object members).compact)

/-- The value of a text typed by a user: an integer if it reads as one, else the text itself. -/
def ofTyped (s : String) : Value :=
  match int64? s.toList with
  | some n => number n
  | none => string s

end Value

/-- The parameters of an expansion. -/
abbrev Params := Keyed Value

/-- The text that stands for a value that is not there. -/
def sentinel : String := "-"

end Phrasebook
