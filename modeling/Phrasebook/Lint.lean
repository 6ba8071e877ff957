import Phrasebook.Catalog
import Phrasebook.Clause
import Phrasebook.Modifier
import Phrasebook.Run

/-!
# Lint

What can be told to be amiss in a template without expanding it: openings of blocks that are never
closed, malformed blocks, clauses without some of their fields, and modifiers that are not
registered. Each finding says where. For a modifier that is not registered, it suggests those whose
names are close.
-/

/-! ## The edit distance

The least number of insertions, deletions and replacements of single characters that turn one text
into another, computed row by row: the row of a word's beginning holds its distances to every
beginning of the other word.
-/

namespace Phrasebook.Text

/-- The entries of the next row after its first: `diagonal` is the entry above and to the left, the
paired list holds the characters of the other word with the entries above them, and `left` is the
entry just computed. -/
def editRow (c : Char) (diagonal left : Nat) : List (Char × Nat) → List Nat
  | [] => []
  | (d, above) :: rest =>
    let entry := min (if c = d then diagonal else diagonal + 1) (min above left + 1)
    entry :: editRow c above entry rest

/-- The row that follows `row` when the character `c` is added to the first word. -/
def nextEditRow (other : List Char) (row : List Nat) (c : Char) : List Nat :=
  match row with
  | [] => []
  | first :: rest => (first + 1) :: editRow c first (first + 1) (other.zip rest)

/-- The edit distance of two texts, counted in characters. -/
def editDistance (xs ys : List Char) : Nat :=
  (xs.foldl (nextEditRow ys) (List.range (ys.length + 1))).getLastD 0

end Phrasebook.Text

/-! ## Suggestions

Known names that a misspelt name may have been meant for: those within a small edit distance, the
closest first.
-/

namespace Phrasebook.Suggestion

/-- How far a suggestion may be from a name: names of at most three bytes allow one edit, longer
ones two. -/
def reach (name : String) : Nat :=
  if name.utf8ByteSize ≤ 3 then 1 else 2

/-- The greatest number of suggestions. -/
def limit : Nat := 3

/-- The suggestions for a name among the available ones. Equally close ones keep their order, and a
name is no suggestion for itself. -/
def compute (name : String) (available : List String) : List String :=
  let measured := available.map fun candidate =>
    (Text.editDistance name.toList candidate.toList, candidate)
  let close := measured.filter fun m => 0 < m.1 && m.1 ≤ reach name
  ((close.mergeSort fun a b => a.1 ≤ b.1).take limit).map Prod.snd

end Phrasebook.Suggestion

/-! ## Findings in a template -/

namespace Phrasebook

open Text (Span byteSize)

/-- What can be amiss in a template. -/
inductive Problem where
  | unterminated
  | malformedBlock (reason : BlockFault)
  | malformedClause (index : Nat) (fault : ClauseFault)
  | unknownModifier (name : String) (suggestions : List String)
  deriving DecidableEq, Repr

namespace Problem

/-- The wording of a problem. -/
def message : Problem → String
  | unterminated => "unterminated '@\x7b' is kept as text"
  | malformedBlock reason => s!"malformed block: {reason.message}"
  | malformedClause index fault => s!"clause {index}: {fault.message}"
  | unknownModifier name suggestions =>
    s!"unknown modifier '{name}'" ++
      if suggestions.isEmpty then ""
      else ", did you mean: " ++ String.intercalate ", " suggestions ++ "?"

/-- What to do about a problem. -/
def help : Problem → String
  | unterminated => "close the block with '\x7d' on the same line"
  | malformedBlock _ => "expected @\x7bvar=name\x7d or @\x7bref=name||modi=mod=...:val=...:text=...\x7d"
  | malformedClause _ _ => "each clause needs mod=, val= and text="
  | unknownModifier _ _ => "run `locus modifiers` to list the built-in modifiers"

end Problem

/-- A problem and the bytes of the template where it is. -/
structure Finding where
  span : Span
  problem : Problem
  deriving DecidableEq, Repr

namespace Lint

/-! ### Openings that are never closed -/

/-- A character that ends a line. -/
def isLineEnd (c : Char) : Bool :=
  c = '\n' || c = '\r'

/-- The findings in a literal that begins at byte `start`: one for each opening, up to the end of
its line or of the literal. -/
def ofLiteral (start : Nat) : List Char → List Finding
  | [] => []
  | c :: rest =>
    let others := ofLiteral (start + c.utf8Size) rest
    if c = '@' ∧ rest.head? = some '\x7b' then
      ⟨⟨start, start + byteSize ((c :: rest).takeWhile (!isLineEnd ·))⟩, .unterminated⟩ :: others
    else others

/-! ### Blocks -/

/-- The problem with the modifier of a clause, if it has one and that is not known. -/
def ofModifier (known : List String) (modifier : Option String) : List Problem :=
  match modifier with
  | none => []
  | some name =>
    if name ∈ known then [] else [.unknownModifier name (Suggestion.compute name known)]

/-- The problems of one clause. -/
def ofClause (known : List String) (index : Nat) (d : Clause.Draft) : List Problem :=
  (if d.missing = [] then [] else [.malformedClause index ⟨d.missing⟩]) ++
    ofModifier known d.modifier

/-- The problems of clauses, of which the first has the given index. -/
def ofClauses (known : List String) : Nat → List Clause.Draft → List Problem
  | _, [] => []
  | index, d :: rest => ofClause known index d ++ ofClauses known (index + 1) rest

/-- The problems of a block. -/
def ofBlock (known : List String) (content : String) : List Problem :=
  match BlockKind.ofContent content with
  | .error reason => [.malformedBlock reason]
  | .ok (.parameter _) => []
  | .ok (.choice _ logic) => ofClauses known 0 (Clause.drafts logic)

/-! ### Templates -/

/-- The findings in segments of which the first begins at byte `start`. -/
def ofSegments (known : List String) : Nat → List Segment → List Finding
  | _, [] => []
  | start, .literal text :: rest =>
    ofLiteral start text.toList ++ ofSegments known (start + text.utf8ByteSize) rest
  | _, .block b :: rest =>
    (ofBlock known b.content).map (Finding.mk b.span) ++ ofSegments known b.span.stop rest

end Lint

/-- The findings in a template, from left to right. -/
def Template.lint (t : Template) (registry : Registry) : List Finding :=
  Lint.ofSegments registry.names 0 t.segments

/-- The findings in the template of a text. -/
def Registry.lint (registry : Registry) (text : String) : List Finding :=
  (Template.parse text).lint registry

/-! ## Findings in a catalog

The findings in all translations of a catalog, dictionary by dictionary and key by key.
-/

/-- A finding in the text of a key. -/
structure CatalogFinding where
  role : Role
  key : String
  finding : Finding
  deriving DecidableEq, Repr

namespace Catalog

/-- The findings in a dictionary. -/
def lintDictionary (registry : Registry) (role : Role) (d : Dictionary) : List CatalogFinding :=
  d.translations.entries.flatMap fun (key, text) =>
    (registry.lint text).map (CatalogFinding.mk role key)

/-- The findings in a catalog. -/
def lint (c : Catalog) (registry : Registry) : List CatalogFinding :=
  c.dictionaries.flatMap fun (role, d) => lintDictionary registry role d

/-- The text in which a finding was made. -/
def textOf (c : Catalog) (f : CatalogFinding) : String :=
  (((c.dictionary? f.role).bind fun d => d.translations.get? f.key)).getD ""

end Catalog

end Phrasebook
