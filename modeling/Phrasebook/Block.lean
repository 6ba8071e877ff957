import Phrasebook.Template
import Phrasebook.Text.Split

/-!
# What a block says

The content of a block falls into sections between `||` separators. A section names a parameter to
show (`var=`), names the reference parameter of a choice (`ref=`), or holds the logic of a choice
(`modi=`); any other section means nothing. What each section contributes is merged from left to
right, a later contribution of one kind replacing an earlier one, and the merged sections decide
what the block is.
-/

namespace Phrasebook

open Text (splitBars cutAt? trim)

/-- Why a block is neither a parameter nor a choice. -/
inductive BlockFault where
  | noSections
  | missingReference
  | missingLogic
  deriving DecidableEq, Repr

namespace BlockFault

/-- The wording of a fault. -/
def message : BlockFault → String
  | noSections => "block has no var, ref or modi section"
  | missingReference => "block has a modi section but no ref section"
  | missingLogic => "block has a ref section but no modi section"

end BlockFault

/-- What a well-formed block is: a parameter to show, or a choice that its logic makes by the value
of a reference parameter. -/
inductive BlockKind where
  | parameter (name : String)
  | choice (reference : String) (logic : String)
  deriving DecidableEq, Repr

/-- What the sections of a block contribute: a parameter to show, a reference parameter, and the
whole section that holds the logic. -/
structure Sections where
  parameter : Option String
  reference : Option String
  logic : Option String
  deriving DecidableEq, Repr

namespace Sections

/-- No contribution at all. -/
def empty : Sections := ⟨none, none, none⟩

/-- The separator of sections. -/
def separator : String := "||"

/-- The marks of the three kinds of sections. -/
def parameterMark : String := "var="

@[inherit_doc parameterMark]
def referenceMark : String := "ref="

@[inherit_doc parameterMark]
def logicMark : String := "modi="

/-- The name that a section assigns: what follows its only equals sign, trimmed and not empty. -/
def assigned? (part : List Char) : Option String :=
  match cutAt? '=' part with
  | some (_, value) =>
    if '=' ∈ value ∨ trim value = [] then none else some (String.ofList (trim value))
  | none => none

/-- The contribution of one section. The mark of a parameter excludes every other reading; a
section with the mark of a reference may still hold logic if it assigns no name. -/
def ofSection (part : List Char) : Sections :=
  if parameterMark.toList <:+: part then { empty with parameter := assigned? part }
  else
    match if referenceMark.toList <:+: part then assigned? part else none with
    | some name => { empty with reference := some name }
    | none =>
      if logicMark.toList <:+: part then { empty with logic := some (String.ofList part) }
      else empty

/-- Contributions of which the second stands further right and so goes first. -/
def followedBy (a b : Sections) : Sections :=
  ⟨b.parameter <|> a.parameter, b.reference <|> a.reference, b.logic <|> a.logic⟩

/-- The merged contributions of the sections of a block's content. -/
def ofContent (content : String) : Sections :=
  ((splitBars content.toList).map ofSection).foldl followedBy empty

/-- A section that contributes nothing after others changes nothing. -/
theorem followedBy_empty (a : Sections) : a.followedBy empty = a := by
  simp [followedBy, empty]

/-- Contributions after none at all are what they are alone. -/
theorem empty_followedBy (a : Sections) : empty.followedBy a = a := by
  simp [followedBy, empty]

/-- It does not matter which of several contributions are merged first. -/
theorem followedBy_assoc (a b c : Sections) :
    (a.followedBy b).followedBy c = a.followedBy (b.followedBy c) := by
  obtain ⟨p, r, l⟩ := c
  cases p <;> cases r <;> cases l <;> rfl

/-- What the sections amount to: a parameter before anything else, and otherwise a choice, which
needs both a reference and its logic. -/
def kind : Sections → Except BlockFault BlockKind
  | ⟨some name, _, _⟩ => .ok (.parameter name)
  | ⟨none, some reference, some logic⟩ => .ok (.choice reference logic)
  | ⟨none, some _, none⟩ => .error .missingLogic
  | ⟨none, none, some _⟩ => .error .missingReference
  | ⟨none, none, none⟩ => .error .noSections

end Sections

/-- What a block of the given content is. -/
def BlockKind.ofContent (content : String) : Except BlockFault BlockKind :=
  (Sections.ofContent content).kind

end Phrasebook
