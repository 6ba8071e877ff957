import Phrasebook.Command.Line
import Phrasebook.Diagnostic
import Phrasebook.Localizer
import Phrasebook.Shared
import Phrasebook.Table

/-!
# Doing what a command says

A command reads files and yields what is written to the two output streams and the code with which
the program ends.
-/

namespace Phrasebook.Command

open Text (Span)

/-- What a command leaves behind. -/
structure Outcome where
  code : Nat
  output : String
  errors : String
  deriving DecidableEq, Repr

/-- The codes with which the program ends. -/
def codeOk : Nat := 0

@[inherit_doc codeOk]
def codeUsage : Nat := 2

@[inherit_doc codeOk]
def codeData : Nat := 65

@[inherit_doc codeOk]
def codeSoftware : Nat := 70

/-- What `--version` writes. -/
def versionText : String := "locus 0.1.0"

/-! ### Writing -/

/-- A text on a line of its own. -/
def line (text : String) : String :=
  text ++ "\n"

/-- A word in bold and in the colour of the given number. -/
def colored (color : Nat) (word : String) : String :=
  s!"\x1b[1m\x1b[{color}m{word}\x1b[39m\x1b[0m"

/-- A line that begins with a coloured word. -/
def coloredLine (color : Nat) (word text : String) : String :=
  line (colored color word ++ " " ++ text)

/-- Red, green and yellow. -/
def red : Nat := 31

@[inherit_doc red]
def green : Nat := 32

@[inherit_doc red]
def yellow : Nat := 33

/-- A text that may be absent, in JSON. -/
def jsonOfText? (text : Option String) : Json :=
  (text.map Json.string).getD .null

/-- A value in JSON on lines of its own. -/
def jsonLines (value : Json) : String :=
  line value.indented

/-! ### `eval` -/

/-- Expands a template. A malformed one yields the alternative, but the code tells. -/
def runEval (verbose : Bool) (c : EvalCommand) : Outcome :=
  let (result, warnings) :=
    (Template.parse c.template).evaluate Registry.builtin (paramsOfTyped c.params)
  let shown := warnings.map Warning.message
  let (text, error) : Option String × Option String :=
    match result with
    | .ok text => (some text, none)
    | .error e => (c.alt, some e.message)
  let code := if error.isSome then codeData else codeOk
  if c.json then
    let members := [("result", jsonOfText? text)] ++
      (error.map fun e => ("error", Json.string e)).toList ++
      [("warnings", .array (shown.map Json.string))]
    ⟨code, jsonLines (.object members), ""⟩
  else
    let warningLines := if verbose then shown.map (coloredLine yellow "warning:") else []
    let errorLines := error.toList.map (coloredLine red "error:")
    ⟨code, String.join (text.toList.map line), String.join (warningLines ++ errorLines)⟩

/-! ### `translate` -/

/-- The request that a command makes with a key. -/
def requestOf (c : TranslateCommand) (key : String) : Request :=
  ⟨c.iso, some key, c.alt, some (paramsOfTyped c.params), c.forceIso⟩

/-- The outcome of a catalog that could not be loaded. -/
def loadFailure (read : FileReader) (e : LoadError) : Outcome :=
  ⟨codeSoftware, "", line (Diagnostic.ofLoadError read e).message⟩

/-- The answer to a request from a catalog. -/
def translated (c : TranslateCommand) (catalog : Catalog) : Option String :=
  match c.subject with
  | .key key => (Localizer.ofCatalog catalog).get (requestOf c key)
  | .payload text => (Localizer.ofCatalog catalog).translateText text

/-- Answers a request from the catalog in a file. -/
def runTranslate (read : FileReader) (c : TranslateCommand) : Outcome :=
  match Catalog.load read c.catalog with
  | .error e => loadFailure read e
  | .ok catalog =>
    let result := translated c catalog
    let output :=
      if c.json then jsonLines (.object [("result", jsonOfText? result)])
      else String.join (result.toList.map line)
    ⟨if result.isSome then codeOk else codeData, output, ""⟩

/-! ### `check` -/

/-- A finding in a file, in JSON. -/
def jsonOfFinding (path : String) (f : CatalogFinding) : Json :=
  .object [("file", .string path), ("dictionary", .string f.role.name), ("key", .string f.key),
    ("message", .string f.finding.problem.message),
    ("span", .array [.int f.finding.span.start, .int f.finding.span.stop])]

/-- What checking a file comes to: its findings, or why it could not be loaded. -/
def checkFile (read : FileReader) (path : String) : Except LoadError (List CatalogFinding) :=
  (Catalog.load read path).map fun catalog => catalog.lint Registry.builtin

/-- Whether a file is without fault. -/
def isClean : Except LoadError (List CatalogFinding) → Bool
  | .ok findings => findings.isEmpty
  | .error _ => false

/-- Lints files, each whatever the others come to. -/
def runCheck (read : FileReader) (c : CheckCommand) : Outcome :=
  let checked := c.files.map fun path => (path, checkFile read path)
  let code := if checked.all fun (_, result) => isClean result then codeOk else codeData
  let findingLines := fun path (f : CatalogFinding) => line (Diagnostic.ofFinding path f).message
  let errors := checked.map fun (path, result) =>
    match result with
    | .error e => line (Diagnostic.ofLoadError read e).message
    | .ok findings => if c.json then "" else String.join (findings.map (findingLines path))
  let output :=
    if c.json then
      jsonLines (.array (checked.flatMap fun (path, result) =>
        match result with
        | .error _ => []
        | .ok findings => findings.map (jsonOfFinding path)))
    else
      String.join (checked.map fun (path, result) =>
        if isClean result then coloredLine green "ok" path else "")
  ⟨code, output, String.join errors⟩

/-! ### `coverage` -/

/-- The coverage of a dictionary, in JSON. -/
def jsonOfCoverage (c : Coverage) : Json :=
  .object [("role", .string c.role.name), ("iso", jsonOfText? c.iso),
    ("translated", .int c.translated), ("missing", .array (c.missing.map Json.string))]

/-- The list of the keys that a dictionary does not translate, if there are any. -/
def missingLines (c : Coverage) : String :=
  if c.missing.isEmpty then ""
  else
    line s!"\nMissing in {c.role.name} ({c.iso.getD sentinel}):" ++
      String.join (c.missing.map fun key => line ("  - " ++ key))

/-- Reports the coverage of the catalog in a file. -/
def runCoverage (read : FileReader) (c : CoverageCommand) : Outcome :=
  match Catalog.load read c.catalog with
  | .error e => loadFailure read e
  | .ok catalog =>
    let coverage := catalog.coverage
    let total := catalog.keys.length
    let output :=
      if c.json then
        jsonLines (.object [("total", .int total),
          ("dictionaries", .array (coverage.map jsonOfCoverage))])
      else
        line (Table.ofCoverage total coverage).render ++ String.join (coverage.map missingLines)
    let incomplete := coverage.any fun d => !d.missing.isEmpty
    ⟨if c.strict && incomplete then codeData else codeOk, output, ""⟩

/-! ### All commands -/

/-- Does what a command says. -/
def Invocation.run (read : FileReader) (i : Invocation) : Outcome :=
  match i.command with
  | .eval c => runEval i.verbose c
  | .translate c => runTranslate read c
  | .check c => runCheck read c
  | .coverage c => runCoverage read c
  | .modifiers => ⟨codeOk, line (Table.ofModifiers Registry.builtin.names).render, ""⟩
  | .version => ⟨codeOk, line versionText, ""⟩

/-- The outcome of arguments that make no command. -/
def usageOutcome (fault : UsageFault) : Outcome :=
  ⟨codeUsage, "", line ("error: " ++ fault.message)⟩

/-- Does what arguments and environment say. -/
def run (read : FileReader) (env : Environment) (arguments : List String) : Outcome :=
  match readLine env arguments with
  | .ok invocation => invocation.run read
  | .error fault => usageOutcome fault

end Phrasebook.Command
