import Phrasebook.Json.Fault

/-!
# Reading from a text

A reader consumes the front of a text and yields a value, or fails with a fault at a place. The
readers here are shared by all that is read from JSON: blanks, the separators between items and
members, and the closing brackets. A loop is bounded by the text that is unread when it starts: each
of its rounds but the last consumes at least one character of it.
-/

namespace Phrasebook.Json

/-- A reader: what is unread before to the value and what is unread after. -/
abbrev Reader (α : Type) := StateT (List Char) (Except Failure) α

namespace Reader

/-- Fails at the place reached so far. -/
def failHere {α : Type} (fault : Fault) : Reader α :=
  fun unread => .error ⟨fault, unread, 0⟩

/-- Fails just past the next byte, which is to blame. -/
def failAhead {α : Type} (fault : Fault) : Reader α :=
  fun unread => .error ⟨fault, unread, 1⟩

/-- A bound for a loop over the unread text: one round for each of its characters, and a last one. -/
def bound : Reader (List Char) := do
  return ' ' :: (← get)

/-- The blanks between the parts of a JSON text. -/
def isJsonBlank (c : Char) : Bool :=
  c = ' ' || c = '\n' || c = '\t' || c = '\r'

/-- Passes over blanks. -/
def skipBlanks : Reader Unit :=
  modify fun unread => unread.dropWhile isJsonBlank

/-- The next character that is not blank, left unread. -/
def peek : Reader (Option Char) := do
  skipBlanks
  return (← get).head?

/-- Passes over one character. -/
def advance : Reader Unit :=
  modify fun unread => unread.drop 1

/-- Passes over the rest of a name such as `null` after its first letter. -/
def nameRest : List Char → Reader Unit
  | [] => pure ()
  | expected :: more => do
    match (← get).head? with
    | none => failHere .endInValue
    | some c =>
      if c = expected then
        advance
        nameRest more
      else failAhead .expectedName

/-! ### Lists -/

/-- Whether another item follows in a list, and if so passes over the comma before it. -/
def nextItem (first : Bool) : Reader Bool := do
  match ← peek with
  | none => failAhead .endInList
  | some c =>
    if c = ']' then return false
    else if first then return true
    else if c = ',' then
      advance
      match ← peek with
      | none => failAhead .endInValue
      | some d => if d = ']' then failAhead .trailingComma else return true
    else failAhead .expectedListEnd

/-- The items of a list up to its bracket, each read by `item`. -/
def items {α : Type} (item : Reader α) : List Char → Bool → List α → Reader (List α)
  | [], _, acc => return acc.reverse
  | _ :: rounds, first, acc => do
    if ← nextItem first then
      let x ← item
      items item rounds false (x :: acc)
    else return acc.reverse

/-- Passes over the bracket that closes a list. -/
def closeList : Reader Unit := do
  match ← peek with
  | none => failAhead .endInList
  | some c =>
    if c = ']' then advance
    else if c = ',' then
      advance
      match ← peek with
      | some ']' => failAhead .trailingComma
      | _ => failAhead .trailingCharacters
    else failAhead .trailingCharacters

/-! ### Objects -/

/-- Whether another member follows in an object, and if so passes over the comma before it. -/
def nextMember (first : Bool) : Reader Bool := do
  match ← peek with
  | none => failAhead .endInObject
  | some c =>
    if c = '\x7d' then return false
    else if first then
      if c = '"' then return true else failAhead .keyNotString
    else if c = ',' then
      advance
      match ← peek with
      | none => failAhead .endInValue
      | some d =>
        if d = '"' then return true
        else if d = '\x7d' then failAhead .trailingComma
        else failAhead .keyNotString
    else failAhead .expectedObjectEnd

/-- Passes over the colon between the name of a member and its value. -/
def colon : Reader Unit := do
  match ← peek with
  | none => failAhead .endInObject
  | some c => if c = ':' then advance else failAhead .expectedColon

/-- Passes over the bracket that closes an object. -/
def closeObject : Reader Unit := do
  match ← peek with
  | none => failAhead .endInObject
  | some c =>
    if c = '\x7d' then advance
    else if c = ',' then failAhead .trailingComma
    else failAhead .trailingCharacters

/-- Runs a reader on a whole text, after which only blanks may stand. -/
def runAll {α : Type} (reader : Reader α) (text : String) : Except SyntaxError α :=
  let whole := text.toList
  let complete : Reader α := do
    let value ← reader
    match ← peek with
    | none => return value
    | some _ => failAhead .trailingCharacters
  match complete whole with
  | .ok (value, _) => .ok value
  | .error failure => .error (failure.inText whole)

end Reader

end Phrasebook.Json
