/-!
# Options on a command line

The arguments of a command are options, which are known by a long name and perhaps a letter, and
operands. An option that takes a value has it attached, after an equals sign or to its letter, or as
the next argument, which must not look like an option itself. Letters may be joined behind one
hyphen, and after a double hyphen everything is an operand.
-/

namespace Phrasebook.Command

/-- How an option is used. -/
inductive OptionKind where
  /-- Stands alone, at most once. -/
  | flag
  /-- Stands alone and makes all that follows it irrelevant. -/
  | signal
  /-- Takes a value, at most once. -/
  | single
  /-- Takes a value, any number of times. -/
  | repeated
  deriving DecidableEq, Repr

/-- An option: its names, its use, and the values it takes. -/
structure OptionSpec where
  long : String
  letter : Option Char
  kind : OptionKind
  accepts : String → Bool

namespace OptionSpec

/-- Whether the option takes a value. -/
def takesValue (o : OptionSpec) : Bool :=
  o.kind == .single || o.kind == .repeated

end OptionSpec

/-- Why arguments make no command. -/
inductive UsageFault where
  | unknownOption (argument : String)
  | missingValue (option : String)
  | unwantedValue (option : String)
  | repeatedOption (option : String)
  | badValue (option : String) (value : String)
  | unexpectedOperand (argument : String)
  | missingOption (option : String)
  | missingOperand
  | conflictingOptions (first : String) (second : String)
  | missingCommand
  | unknownCommand (name : String)
  deriving DecidableEq, Repr

namespace UsageFault

/-- The wording of a fault. -/
def message : UsageFault → String
  | unknownOption argument => s!"unexpected argument '{argument}' found"
  | missingValue option => s!"a value is required for '--{option}' but none was supplied"
  | unwantedValue option => s!"unexpected value for '--{option}' found"
  | repeatedOption option => s!"the argument '--{option}' cannot be used multiple times"
  | badValue option value => s!"invalid value '{value}' for '--{option}'"
  | unexpectedOperand argument => s!"unexpected argument '{argument}' found"
  | missingOption option => s!"the argument '--{option}' was not provided"
  | missingOperand => "the required arguments were not provided"
  | conflictingOptions first second =>
    s!"the argument '--{first}' cannot be used with '--{second}'"
  | missingCommand => "a subcommand is required"
  | unknownCommand name => s!"unrecognized subcommand '{name}'"

end UsageFault

/-- The options and operands read from arguments: the values of each option in order, and the
arguments that were left when a signal or an operand ended the reading. -/
structure Arguments where
  flags : List String
  values : List (String × String)
  operands : List String
  signal : Option String

namespace Arguments

/-- No arguments. -/
def none : Arguments := ⟨[], [], [], .none⟩

/-- Whether a flag was given. -/
def hasFlag (a : Arguments) (name : String) : Bool :=
  a.flags.contains name

/-- The values of an option. -/
def valuesOf (a : Arguments) (name : String) : List String :=
  (a.values.filter fun v => v.1 = name).map Prod.snd

/-- The value of an option that is given at most once. -/
def valueOf? (a : Arguments) (name : String) : Option String :=
  (a.valuesOf name).head?

/-- The arguments with a further flag. -/
def addFlag (a : Arguments) (o : OptionSpec) : Except UsageFault Arguments :=
  if o.kind = .signal then .ok { a with signal := some o.long }
  else if a.hasFlag o.long then .error (.repeatedOption o.long)
  else .ok { a with flags := a.flags ++ [o.long] }

/-- The arguments with a further value of an option. -/
def addValue (a : Arguments) (o : OptionSpec) (value : String) : Except UsageFault Arguments :=
  if o.kind = .single ∧ (a.valueOf? o.long).isSome then .error (.repeatedOption o.long)
  else if o.accepts value then .ok { a with values := a.values ++ [(o.long, value)] }
  else .error (.badValue o.long value)

/-! ### One argument -/

/-- An argument taken by itself: flags, and then perhaps an option with the value attached to it, if
any. -/
structure Parsed where
  flags : List OptionSpec
  option : Option (OptionSpec × Option String)

/-- Whether an argument looks like an option. A single hyphen does not. -/
def looksLikeOption (argument : String) : Bool :=
  argument.toList.head? = some '-' && argument ≠ "-"

/-- An argument that is a long name, perhaps with an equals sign and a value. -/
def parseLong (options : List OptionSpec) (body : List Char) : Except UsageFault Parsed :=
  let name := String.ofList (body.takeWhile (· ≠ '='))
  let value : Option String :=
    match body.dropWhile (· ≠ '=') with
    | [] => .none
    | _ :: v => some (String.ofList v)
  match options.find? fun o => o.long = name with
  | .none => .error (.unknownOption name)
  | some o =>
    if o.takesValue then .ok ⟨[], some (o, value)⟩
    else if value.isSome then .error (.unwantedValue name)
    else .ok ⟨[o], .none⟩

/-- The value attached to the letter of an option. -/
def attached : List Char → Option String
  | [] => .none
  | '=' :: v => some (String.ofList v)
  | v => some (String.ofList v)

/-- An argument that is a row of letters. -/
def parseLetters (options : List OptionSpec) : List Char → Except UsageFault Parsed
  | [] => .ok ⟨[], .none⟩
  | c :: rest =>
    match options.find? fun o => o.letter = some c with
    | .none => .error (.unknownOption (String.ofList ['-', c]))
    | some o =>
      if o.takesValue then .ok ⟨[], some (o, attached rest)⟩
      else if o.kind = .signal then .ok ⟨[o], .none⟩
      else do
        let more ← parseLetters options rest
        return { more with flags := o :: more.flags }

/-- An argument that looks like an option. -/
def parseOne (options : List OptionSpec) (argument : String) : Except UsageFault Parsed :=
  match argument.toList with
  | '-' :: '-' :: body => parseLong options body
  | '-' :: letters => parseLetters options letters
  | body => parseLetters options body

/-! ### All arguments -/

/-- The arguments after those in `a`. If operands are not wanted, the first one and all that follows
it are left as they are. -/
def readFrom (options : List OptionSpec) (wantsOperands : Bool) (a : Arguments) :
    List String → Except UsageFault Arguments
  | [] => .ok a
  | argument :: rest =>
    if argument = "--" then
      if wantsOperands then .ok { a with operands := a.operands ++ rest }
      else
        match rest with
        | [] => .ok a
        | operand :: _ => .error (.unexpectedOperand operand)
    else if looksLikeOption argument then do
      let parsed ← parseOne options argument
      let a ← parsed.flags.foldlM addFlag a
      if a.signal.isSome then return a
      else
        match parsed.option with
        | .none => readFrom options wantsOperands a rest
        | some (o, some value) => do
          readFrom options wantsOperands (← a.addValue o value) rest
        | some (o, .none) =>
          match rest with
          | [] => .error (.missingValue o.long)
          | value :: rest =>
            if looksLikeOption value then .error (.missingValue o.long)
            else do
              readFrom options wantsOperands (← a.addValue o value) rest
    else if wantsOperands then
      readFrom options wantsOperands { a with operands := a.operands ++ [argument] } rest
    else .ok { a with operands := argument :: rest }

/-- The arguments of a command. -/
def read (options : List OptionSpec) (wantsOperands : Bool) (arguments : List String) :
    Except UsageFault Arguments :=
  readFrom options wantsOperands none arguments

end Arguments

end Phrasebook.Command
