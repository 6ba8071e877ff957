import Phrasebook.Command.Options
import Phrasebook.Value

/-!
# Commands from a command line

The arguments and the environment of the program name a command. Options that concern the whole
program may stand before or after the name of the command; the environment stands in for two of the
options.
-/

/-! ## What the program can be told to do -/

namespace Phrasebook

/-- Expand a template. -/
structure EvalCommand where
  template : String
  params : List (String × String)
  alt : Option String
  json : Bool

/-- What a text is asked for by. -/
inductive TranslateSubject where
  | key (key : String)
  | payload (text : String)

/-- Look up a key of a catalog and expand its text. -/
structure TranslateCommand where
  catalog : String
  subject : TranslateSubject
  iso : Option String
  forceIso : Bool
  alt : Option String
  params : List (String × String)
  json : Bool

/-- Lint catalogs. -/
structure CheckCommand where
  files : List String
  json : Bool

/-- Report the coverage of a catalog. -/
structure CoverageCommand where
  catalog : String
  strict : Bool
  json : Bool

/-- A thing to do. -/
inductive Command where
  | eval (c : EvalCommand)
  | translate (c : TranslateCommand)
  | check (c : CheckCommand)
  | coverage (c : CoverageCommand)
  | modifiers
  | version

namespace Command

/-- The files that a command reads. -/
def files : Command → List String
  | eval _ => []
  | translate c => [c.catalog]
  | check c => c.files
  | coverage c => [c.catalog]
  | modifiers => []
  | version => []

/-- A typed parameter: the name before the first equals sign, and the value after it. -/
def splitParam? (argument : String) : Option (String × String) :=
  match argument.toList.dropWhile (· ≠ '=') with
  | [] => none
  | _ :: value => some (String.ofList (argument.toList.takeWhile (· ≠ '=')), String.ofList value)

/-- The parameters of typed names and values. A value that reads as an integer is one, and the last
value of a name counts. -/
def paramsOfTyped (pairs : List (String × String)) : Params :=
  Keyed.ofList (pairs.map fun (name, value) => (name, Value.ofTyped value))

end Command

end Phrasebook

/-! ## Commands from arguments and environment -/

namespace Phrasebook.Command

/-- Variables of the environment. -/
abbrev Environment := Keyed String

/-- A command, and whether it should say more. -/
structure Invocation where
  verbose : Bool
  command : Command

/-! ### Options -/

/-- Any value will do. -/
def anyValue : String → Bool := fun _ => true

/-- A path is not empty. -/
def isPath (value : String) : Bool :=
  !value.isEmpty

/-- When colours are used. -/
def isColorChoice (value : String) : Bool :=
  ["auto", "always", "never"].contains value

/-- The options that may stand on both sides of the name of a command. -/
def globalOptions : List OptionSpec :=
  [⟨"color", none, .single, isColorChoice⟩, ⟨"verbose", some 'v', .flag, anyValue⟩]

/-- The options of the program itself. -/
def programOptions : List OptionSpec :=
  globalOptions ++ [⟨"version", some 'V', .signal, anyValue⟩]

/-- The option for parameters. -/
def paramOption : OptionSpec :=
  ⟨"param", some 'p', .repeated, fun value => (splitParam? value).isSome⟩

/-- The option for machine-readable output. -/
def jsonOption : OptionSpec := ⟨"json", none, .flag, anyValue⟩

/-- The option for a text to fall back on. -/
def altOption : OptionSpec := ⟨"alt", none, .single, anyValue⟩

/-- The option for the file of a catalog. -/
def catalogOption : OptionSpec := ⟨"catalog", none, .single, isPath⟩

@[inherit_doc EvalCommand]
def evalOptions : List OptionSpec :=
  [⟨"template", none, .single, anyValue⟩, paramOption, altOption, jsonOption]

@[inherit_doc TranslateCommand]
def translateOptions : List OptionSpec :=
  [catalogOption, ⟨"key", none, .single, anyValue⟩, ⟨"payload", none, .single, anyValue⟩,
   ⟨"iso", none, .single, anyValue⟩, ⟨"force-iso", none, .flag, anyValue⟩, altOption, paramOption,
   jsonOption]

@[inherit_doc CoverageCommand]
def coverageOptions : List OptionSpec :=
  [catalogOption, ⟨"strict", none, .flag, anyValue⟩, jsonOption]

/-! ### Commands from arguments -/

/-- The arguments of a command that takes no operands. -/
def readOptions (options : List OptionSpec) (arguments : List String) :
    Except UsageFault Arguments := do
  let a ← Arguments.read (options ++ globalOptions) true arguments
  match a.operands with
  | [] => return a
  | operand :: _ => throw (.unexpectedOperand operand)

/-- The file of the catalog, from the option or the environment. -/
def catalogPath (env : Environment) (a : Arguments) : Except UsageFault String :=
  match a.valueOf? "catalog" <|> env.get? "LOCUS_CATALOG" with
  | none => .error (.missingOption "catalog")
  | some path => if isPath path then .ok path else .error (.badValue "catalog" path)

/-- The typed parameters. -/
def typedParams (a : Arguments) : List (String × String) :=
  (a.valuesOf "param").filterMap splitParam?

/-- The command named `eval`. -/
def readEval (a : Arguments) : Except UsageFault Command :=
  match a.valueOf? "template" with
  | none => .error (.missingOption "template")
  | some template => .ok (.eval ⟨template, typedParams a, a.valueOf? "alt", a.hasFlag "json"⟩)

/-- What a text is asked for by: a key or a payload, but not both. -/
def readSubject (a : Arguments) : Except UsageFault TranslateSubject :=
  match a.valueOf? "key", a.valueOf? "payload" with
  | some key, none => .ok (.key key)
  | none, some text => .ok (.payload text)
  | some _, some _ => .error (.conflictingOptions "key" "payload")
  | none, none => .error (.missingOption "key")

/-- The command named `translate`. -/
def readTranslate (env : Environment) (a : Arguments) : Except UsageFault Command := do
  let subject ← readSubject a
  let catalog ← catalogPath env a
  return .translate
    ⟨catalog, subject, a.valueOf? "iso" <|> env.get? "LOCUS_ISO", a.hasFlag "force-iso",
      a.valueOf? "alt", typedParams a, a.hasFlag "json"⟩

/-- The command named `coverage`. -/
def readCoverage (env : Environment) (a : Arguments) : Except UsageFault Command := do
  return .coverage ⟨← catalogPath env a, a.hasFlag "strict", a.hasFlag "json"⟩

/-- The command named `check`. -/
def readCheck (a : Arguments) : Except UsageFault Command :=
  if a.operands.isEmpty then .error .missingOperand
  else
    match a.operands.find? fun path => !isPath path with
    | some path => .error (.badValue "files" path)
    | none => .ok (.check ⟨a.operands, a.hasFlag "json"⟩)

/-- The command of a name and the arguments after it, and whether it should say more. -/
def readNamed (env : Environment) (name : String) (arguments : List String) :
    Except UsageFault Invocation := do
  match name with
  | "eval" =>
    let a ← readOptions evalOptions arguments
    return ⟨a.hasFlag "verbose", ← readEval a⟩
  | "translate" =>
    let a ← readOptions translateOptions arguments
    return ⟨a.hasFlag "verbose", ← readTranslate env a⟩
  | "check" =>
    let a ← Arguments.read (jsonOption :: globalOptions) true arguments
    return ⟨a.hasFlag "verbose", ← readCheck a⟩
  | "coverage" =>
    let a ← readOptions coverageOptions arguments
    return ⟨a.hasFlag "verbose", ← readCoverage env a⟩
  | "modifiers" =>
    let a ← readOptions [] arguments
    return ⟨a.hasFlag "verbose", .modifiers⟩
  | _ => throw (.unknownCommand name)

/-- The command that arguments and environment name. -/
def readLine (env : Environment) (arguments : List String) : Except UsageFault Invocation := do
  let a ← Arguments.read programOptions false arguments
  let verbose := a.hasFlag "verbose"
  if a.signal.isSome then return ⟨verbose, .version⟩
  else
    match a.operands with
    | [] => throw .missingCommand
    | name :: rest =>
      let i ← readNamed env name rest
      return { i with verbose := verbose || i.verbose }

end Phrasebook.Command
