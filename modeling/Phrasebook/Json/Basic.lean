import Phrasebook.Decimal.Shortest
import Phrasebook.Double
import Phrasebook.Keyed

/-!
# JSON values

A JSON value. A number is an integer when it is written as one that 64 bits hold, with or without a
sign, and a double otherwise. The members of an object that was read ascend by name and no name
occurs twice: `Json.ofMembers` sees to that, the last of several members with one name counting. An
object that is only written keeps the order in which it was made.
-/

namespace Phrasebook

/-- A JSON value. -/
inductive Json where
  | null
  | bool (value : Bool)
  | int (value : Int)
  | float (value : Float)
  | string (value : String)
  | array (items : List Json)
  | object (members : List (String × Json))
  deriving Inhabited

namespace Json

/-- The object of a list of members in the order they are written. -/
def ofMembers (members : List (String × Json)) : Json :=
  .object (Keyed.ofList members).entries

/-- The member of an object under a name. -/
def member? (name : String) : Json → Option Json
  | .object members => members.lookup name
  | _ => none

/-- Whether a value counts as true: neither null nor false, neither zero nor the empty string. -/
def isTruthy : Json → Bool
  | .null => false
  | .bool b => b
  | .int n => n ≠ 0
  | .float x => Double.magnitude x ≠ 0
  | .string s => !s.isEmpty
  | .array _ => true
  | .object _ => true

end Json

end Phrasebook

/-! ## Writing

Two layouts of a JSON value: on one line without blanks, and indented by two spaces a level. Both
write members in the order in which the object holds them, and escape only what has to be: quotes,
backslashes and the controls below the space.
-/

namespace Phrasebook.Json

/-- Doubles in JSON text: a half goes to the even digit, numbers from `1e-5` to below `1e16` are
positional, whole ones keep a `.0`, and an exponent has a sign. -/
def floatStyle : FloatStyle :=
  ⟨.even, fun point => -4 ≤ point && point ≤ 16, ".0".toList, ['+']⟩

/-- One character inside a string. -/
def escapeChar (c : Char) : List Char :=
  if c = '"' then ['\\', '"']
  else if c = '\\' then ['\\', '\\']
  else if c = '\n' then ['\\', 'n']
  else if c = '\r' then ['\\', 'r']
  else if c = '\t' then ['\\', 't']
  else if c.toNat = 0x08 then ['\\', 'b']
  else if c.toNat = 0x0C then ['\\', 'f']
  else if c.toNat < 0x20 then
    ['\\', 'u', '0', '0', Nat.digitChar (c.toNat / 16), Nat.digitChar (c.toNat % 16)]
  else [c]

/-- A string with its quotes. -/
def stringText (s : String) : String :=
  String.ofList ('"' :: s.toList.flatMap escapeChar ++ ['"'])

/-- A value that is neither an array nor an object. -/
def scalarText : Json → String
  | .null => "null"
  | .bool b => if b then "true" else "false"
  | .int n => toString n
  | .float x => String.ofList (floatStyle.write x)
  | .string s => stringText s
  | .array _ => ""
  | .object _ => ""

/-! ### On one line -/

mutual

/-- The text of a value on one line. -/
def compact : Json → String
  | .array items => "[" ++ compactItems items ++ "]"
  | .object members => "\x7b" ++ compactMembers members ++ "\x7d"
  | .null => scalarText .null
  | .bool b => scalarText (.bool b)
  | .int n => scalarText (.int n)
  | .float x => scalarText (.float x)
  | .string s => scalarText (.string s)

/-- The items of an array, separated by commas. -/
def compactItems : List Json → String
  | [] => ""
  | item :: rest => compact item ++ compactMoreItems rest

/-- The items after the first, each with the comma before it. -/
def compactMoreItems : List Json → String
  | [] => ""
  | item :: rest => "," ++ compact item ++ compactMoreItems rest

/-- The members of an object, separated by commas. -/
def compactMembers : List (String × Json) → String
  | [] => ""
  | (name, value) :: rest => stringText name ++ ":" ++ compact value ++ compactMoreMembers rest

/-- The members after the first, each with the comma before it. -/
def compactMoreMembers : List (String × Json) → String
  | [] => ""
  | (name, value) :: rest =>
    "," ++ stringText name ++ ":" ++ compact value ++ compactMoreMembers rest

end

/-! ### Indented -/

/-- A line break and the indentation of a level. -/
def newline (level : Nat) : String :=
  String.ofList ('\n' :: List.replicate (2 * level) ' ')

mutual

/-- The text of a value whose opening bracket stands at the given level. -/
def indentedAt (level : Nat) : Json → String
  | .array [] => "[]"
  | .array (item :: rest) =>
    "[" ++ newline (level + 1) ++ indentedAt (level + 1) item ++ indentedItems (level + 1) rest ++
      newline level ++ "]"
  | .object [] => "\x7b\x7d"
  | .object ((name, value) :: rest) =>
    "\x7b" ++ newline (level + 1) ++ stringText name ++ ": " ++ indentedAt (level + 1) value ++
      indentedMembers (level + 1) rest ++ newline level ++ "\x7d"
  | .null => scalarText .null
  | .bool b => scalarText (.bool b)
  | .int n => scalarText (.int n)
  | .float x => scalarText (.float x)
  | .string s => scalarText (.string s)

/-- The items after the first, each on a line of its own. -/
def indentedItems (level : Nat) : List Json → String
  | [] => ""
  | item :: rest => "," ++ newline level ++ indentedAt level item ++ indentedItems level rest

/-- The members after the first, each on a line of its own. -/
def indentedMembers (level : Nat) : List (String × Json) → String
  | [] => ""
  | (name, value) :: rest =>
    "," ++ newline level ++ stringText name ++ ": " ++ indentedAt level value ++
      indentedMembers level rest

end

/-- The indented text of a value. -/
def indented (value : Json) : String :=
  indentedAt 0 value

end Phrasebook.Json
