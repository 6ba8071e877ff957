import Phrasebook.Json.Basic
import Phrasebook.Text.Bytes
import Phrasebook.Text.Quoted

/-!
# What can be wrong with a JSON text

A reader that fails says what is wrong and where: a text may not be JSON at all, or it may be JSON
of another shape than the one that was asked for.
-/

namespace Phrasebook.Json

open Text (Position byteSize quote)

/-- What stood where something else was expected. -/
inductive Found where
  | null
  | bool (value : Bool)
  | int (value : Int)
  | float (value : Float)
  | string (value : String)
  | list
  | object

/-- What is wrong with a text. -/
inductive Fault where
  | endInValue
  | endInString
  | endInList
  | endInObject
  | expectedColon
  | expectedListEnd
  | expectedObjectEnd
  | expectedName
  | expectedValue
  | invalidEscape
  | invalidNumber
  | numberOutOfRange
  | loneSurrogate
  | unfinishedPair
  | controlCharacter
  | keyNotString
  | trailingComma
  | trailingCharacters
  | nestedTooDeep
  | wrongType (found : Found) (expected : String)
  | wrongLength (length : Nat) (expected : String)
  | duplicateMember (name : String)

/-- The words for what was found. -/
def Found.describe : Found → String
  | .null => "null"
  | .bool b => s!"boolean `{b}`"
  | .int n => s!"integer `{n}`"
  | .float x => "floating point `" ++ String.ofList (floatStyle.write x) ++ "`"
  | .string s => "string " ++ quote s
  | .list => "sequence"
  | .object => "map"

/-- The wording of a fault. -/
def Fault.message : Fault → String
  | .endInValue => "EOF while parsing a value"
  | .endInString => "EOF while parsing a string"
  | .endInList => "EOF while parsing a list"
  | .endInObject => "EOF while parsing an object"
  | .expectedColon => "expected `:`"
  | .expectedListEnd => "expected `,` or `]`"
  | .expectedObjectEnd => "expected `,` or `\x7d`"
  | .expectedName => "expected ident"
  | .expectedValue => "expected value"
  | .invalidEscape => "invalid escape"
  | .invalidNumber => "invalid number"
  | .numberOutOfRange => "number out of range"
  | .loneSurrogate => "lone leading surrogate in hex escape"
  | .unfinishedPair => "unexpected end of hex escape"
  | .controlCharacter =>
    "control character (\\u0000-\\u001F) found while parsing a string"
  | .keyNotString => "key must be a string"
  | .trailingComma => "trailing comma"
  | .trailingCharacters => "trailing characters"
  | .nestedTooDeep => "recursion limit exceeded"
  | .wrongType found expected => s!"invalid type: {found.describe}, expected {expected}"
  | .wrongLength length expected => s!"invalid length {length}, expected {expected}"
  | .duplicateMember name => s!"duplicate field `{name}`"

/-- A fault at a place: so many bytes into what was still unread, or at the end of the text if that
comes first. -/
structure Failure where
  fault : Fault
  unread : List Char
  past : Nat

/-- A fault and its position in the text. -/
structure SyntaxError where
  fault : Fault
  position : Position

/-- The failure seen against the whole text. -/
def Failure.inText (whole : List Char) (f : Failure) : SyntaxError :=
  let size := byteSize whole
  ⟨f.fault, Position.ofOffset (min size (size - byteSize f.unread + f.past)) whole⟩

/-- The wording with the position. -/
def SyntaxError.message (e : SyntaxError) : String :=
  s!"{e.fault.message} at line {e.position.line} column {e.position.column}"

end Phrasebook.Json
