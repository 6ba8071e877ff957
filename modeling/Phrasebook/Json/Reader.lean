import Phrasebook.Json.Scalar

/-!
# Reading JSON

The reader of JSON values, and the readers of records that are written in JSON. Arrays and objects
nest at most 127 deep; members that are passed over are read less strictly than values that are
kept: they may nest without bound, halves of surrogate pairs may stand alone in them, and their
numbers may be of any size.
-/

namespace Phrasebook.Json.Reader

/-- How many brackets may be open at once, counted with the one that is refused. -/
def depthLimit : Nat := 128

/-- The members of an object up to its bracket, each value read by `value`. -/
def members (value : Reader Json) :
    List Char → Bool → List (String × Json) → Reader (List (String × Json))
  | [], _, acc => return acc.reverse
  | _ :: rounds, first, acc => do
    if ← nextMember first then
      let name ← string
      colon
      let v ← value
      members value rounds false ((name, v) :: acc)
    else return acc.reverse

/-- A value inside `depthLimit - depth` brackets. -/
def value : Nat → Reader Json
  | 0 => failAhead .nestedTooDeep
  | depth + 1 => do
    match ← peek with
    | none => failAhead .endInValue
    | some c =>
      if c = 'n' then
        advance
        nameRest "ull".toList
        return .null
      else if c = 't' then
        advance
        nameRest "rue".toList
        return .bool true
      else if c = 'f' then
        advance
        nameRest "alse".toList
        return .bool false
      else if c = '-' ∨ isDigit c then number
      else if c = '"' then return .string (← string)
      else if c = '[' then
        if depth = 0 then failAhead .nestedTooDeep
        else
          advance
          let xs ← items (value depth) (← bound) true []
          closeList
          return .array xs
      else if c = '\x7b' then
        if depth = 0 then failAhead .nestedTooDeep
        else
          advance
          let ms ← members (value depth) (← bound) true []
          closeObject
          return ofMembers ms
      else failAhead .expectedValue

/-! ### Passing over a value -/

/-- What a bracket opened. -/
inductive Bracket where
  | list
  | object
  deriving DecidableEq

/-- Passes over the escape after a backslash. -/
def skipEscape : Reader Unit := do
  match (← get).head? with
  | none => failHere .endInString
  | some c =>
    if (shortEscape? c).isSome then advance
    else if c = 'u' then
      advance
      let _ ← hexEscape
    else failAhead .invalidEscape

/-- Passes over the characters of a string and its closing quote. -/
def skipStringRest : List Char → Reader Unit
  | [] => failHere .endInString
  | _ :: rounds => do
    match (← get).head? with
    | none => failHere .endInString
    | some c =>
      if c = '"' then advance
      else if c = '\\' then
        advance
        skipEscape
        skipStringRest rounds
      else if c.toNat < 0x20 then failHere .controlCharacter
      else
        advance
        skipStringRest rounds

/-- Passes over the exponent of a number. -/
def skipExponent : Reader Unit := do
  advance
  match (← get).head? with
  | some '+' => advance
  | some '-' => advance
  | _ => pure ()
  if ((← get).head?).any isDigit then
    let _ ← digits
  else failAhead .invalidNumber

/-- Passes over a number after its sign. -/
def skipUnsignedNumber : Reader Unit := do
  match (← get).head? with
  | some '0' =>
    advance
    if ((← get).head?).any isDigit then failAhead .invalidNumber
  | c =>
    if c.any isDigit then
      let _ ← digits
    else failAhead .invalidNumber
  if (← get).head? = some '.' then
    advance
    if (← digits).isEmpty then failAhead .invalidNumber
  match (← get).head? with
  | some 'e' => skipExponent
  | some 'E' => skipExponent
  | _ => pure ()

/-- Passes over the name of a member and its colon. -/
def skipMemberName : Reader Unit := do
  match ← peek with
  | none => failAhead .endInObject
  | some c =>
    if c = '"' then
      advance
      skipStringRest (← bound)
      colon
    else failAhead .keyNotString

/-- Passes over the comma or the bracket after a value: either a further value follows inside the
brackets that are left, or the outermost one is closed. -/
def skipSeparator : List Char → List Bracket → Reader (Option (List Bracket))
  | _, [] => return none
  | [], _ => return none
  | _ :: rounds, bracket :: outer => do
    match ← peek with
    | none => failAhead (if bracket = .list then .endInList else .endInObject)
    | some c =>
      if c = ',' then
        advance
        if bracket = .object then skipMemberName
        return some (bracket :: outer)
      else if c = (if bracket = .list then ']' else '\x7d') then
        advance
        skipSeparator rounds outer
      else failAhead (if bracket = .list then .expectedListEnd else .expectedObjectEnd)

/-- Passes over the rest of a value of which the given brackets are open. -/
def skipRest : List Char → List Bracket → Reader Unit
  | [], _ => pure ()
  | _ :: rounds, open_ => do
    let finish : Reader Unit := do
      match ← skipSeparator (← bound) open_ with
      | none => pure ()
      | some open_ => skipRest rounds open_
    match ← peek with
    | none => failAhead .endInValue
    | some c =>
      if c = 'n' then
        advance
        nameRest "ull".toList
        finish
      else if c = 't' then
        advance
        nameRest "rue".toList
        finish
      else if c = 'f' then
        advance
        nameRest "alse".toList
        finish
      else if c = '-' then
        advance
        skipUnsignedNumber
        finish
      else if isDigit c then
        skipUnsignedNumber
        finish
      else if c = '"' then
        advance
        skipStringRest (← bound)
        finish
      else if c = '[' then
        advance
        match ← peek with
        | none => failAhead .endInList
        | some ']' =>
          advance
          finish
        | some _ => skipRest rounds (.list :: open_)
      else if c = '\x7b' then
        advance
        match ← peek with
        | none => failAhead .endInObject
        | some '\x7d' =>
          advance
          finish
        | some _ =>
          skipMemberName
          skipRest rounds (.object :: open_)
      else failAhead .expectedValue

/-- Passes over a value. -/
def skipValue : Reader Unit := do
  skipRest (← bound) []

/-! ### Records -/

/-- Fails because something else than `expected` comes next; what comes is read as far as it has to
be named, and a fault inside it is reported first. -/
def wrongType {α : Type} (expected : String) : Reader α := do
  match ← peek with
  | none => failAhead .endInValue
  | some c =>
    if c = '[' then failHere (.wrongType .list expected)
    else if c = '\x7b' then failHere (.wrongType .object expected)
    else
      match ← value 1 with
      | .null => failHere (.wrongType .null expected)
      | .bool b => failHere (.wrongType (.bool b) expected)
      | .int n => failHere (.wrongType (.int n) expected)
      | .float x => failHere (.wrongType (.float x) expected)
      | .string s => failHere (.wrongType (.string s) expected)
      | .array _ => failHere (.wrongType .list expected)
      | .object _ => failHere (.wrongType .object expected)

/-- A string that is kept. -/
def text : Reader String := do
  match ← peek with
  | some '"' => string
  | _ => wrongType "a string"

/-- A value or `null`. -/
def optional {α : Type} (reader : Reader α) : Reader (Option α) := do
  match ← peek with
  | some 'n' =>
    advance
    nameRest "ull".toList
    return none
  | _ => return some (← reader)

/-- Closes a bracket after its inside, by `close` if that went well; a fault of the inside is
reported at the place that closing the bracket reaches. -/
def closeBody {α : Type} (bracket : Char) (close : Reader Unit) : Except Fault α → Reader α
  | .ok x => do
    close
    return x
  | .error fault => do
    if (← peek) = some bracket then advance
    failHere fault

/-- The members of an object, each taken into account by `step` after its name. -/
def foldMembers {σ : Type} (step : σ → String → Reader (Except Fault σ)) :
    List Char → Bool → σ → Reader (Except Fault σ)
  | [], _, s => return .ok s
  | _ :: rounds, first, s => do
    if ← nextMember first then
      match ← step s (← string) with
      | .ok s => foldMembers step rounds false s
      | .error fault => return .error fault
    else return .ok s

/-- An object whose members are taken into account one by one. -/
def objectOf {σ : Type} (step : σ → String → Reader (Except Fault σ)) (start : σ) : Reader σ := do
  advance
  closeBody '\x7d' closeObject (← foldMembers step (← bound) true start)

/-- A record, written as an object of its fields or as the list of them in order. -/
def record {σ : Type} (expected : String) (step : σ → String → Reader (Except Fault σ))
    (start : σ) (list : Reader (Except Fault σ)) : Reader σ := do
  match ← peek with
  | some '\x7b' => objectOf step start
  | some '[' =>
    advance
    closeBody ']' closeList (← list)
  | _ => wrongType expected

end Phrasebook.Json.Reader

namespace Phrasebook.Json

/-- The JSON value of a text. -/
def read (text : String) : Except SyntaxError Json :=
  Reader.runAll (Reader.value Reader.depthLimit) text

/-- The JSON value of a text, if it is one. -/
def read? (text : String) : Option Json :=
  (read text).toOption

end Phrasebook.Json
