import Phrasebook.Catalog.Reader
import Phrasebook.Lint
import Phrasebook.Text.Bytes

/-!
# Diagnostics

What is reported about a catalog: a message, and where it can be shown, the text it is about with a
label on the bytes to blame.
-/

namespace Phrasebook

/-- A marked range of bytes. -/
structure Label where
  label : String
  offset : Nat
  size : Nat
  deriving DecidableEq, Repr

/-- A report. -/
structure Diagnostic where
  message : String
  code : Option String
  help : Option String
  labels : List Label
  source : Option String
  deriving DecidableEq, Repr

namespace Diagnostic

/-- The code of reports that show a text. -/
def catalogCode : String := "locus::catalog"

/-- The words of every label. -/
def here : String := "here"

/-- A report that shows no text. -/
def plain (message : String) : Diagnostic :=
  ⟨message, none, none, [], none⟩

/-- A report that shows a text with one label. -/
def labelled (message help : String) (offset size : Nat) (source : String) : Diagnostic :=
  ⟨message, some catalogCode, some help, [⟨here, offset, size⟩], some source⟩

/-- What a catalog should be. -/
def catalogHelp : String :=
  "a catalog is an object with optional \"base\" and \"fallback\" dictionaries"

/-- The byte that a position names, at most the size of the text. -/
def offsetOf (content : String) (line column : Nat) : Nat :=
  min (Text.lineStart content.toList line + (column - 1)) content.utf8ByteSize

/-- The report of an error at a position of a catalog's text. -/
def ofPosition (path content : String) (line column : Nat) (message : String) : Diagnostic :=
  labelled ("invalid catalog: " ++ message) catalogHelp (offsetOf content line column) 1 path

/-- The report of a finding in the text of a key. -/
def ofFinding (path : String) (f : CatalogFinding) : Diagnostic :=
  labelled f.finding.problem.message f.finding.problem.help f.finding.span.start
    f.finding.span.size s!"{path}#{f.role.name}.{f.key}"

/-- The report of a catalog that could not be loaded. A text that cannot be read again is not
shown. -/
def ofLoadError (read : FileReader) (e : LoadError) : Diagnostic :=
  match e with
  | .unreadable _ _ => plain e.message
  | .malformed path error =>
    match read path with
    | .ok content =>
      ofPosition path content error.position.line error.position.column error.message
    | .error _ => plain e.message

end Diagnostic

end Phrasebook
