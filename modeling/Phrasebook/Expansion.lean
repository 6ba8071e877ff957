import Phrasebook.Clause
import Phrasebook.Modifier
import Phrasebook.Run

/-!
# Expansion

Expanding a template copies its literals and puts a text in the place of each block, from left to
right, until a malformed block stops it. A parameter block becomes the text of its parameter. A
choice becomes the output of the first clause whose modifier accepts, with the mentions of
parameters in it replaced; a clause that lacks a field ends the choice with the default output, and
so does running out of clauses. What a parameter's text holds is never read again.
-/

namespace Phrasebook

/-- What an expansion is given besides the template. -/
structure Setting where
  registry : Registry
  params : Params

namespace Setting

variable (s : Setting)

/-- The text of a parameter. An unset one is noticed, and the sentinel stands for it. -/
def showParameter (name : String) : Run String :=
  match s.params.get? name with
  | some value => pure value.display
  | none => do
    Run.warn (.unresolvedParameter name)
    return sentinel

/-! ### Output text -/

/-- The text of a token. -/
def showToken : Token → Run String
  | .literal text => pure text
  | .parameter name => s.showParameter name

/-- The texts of tokens, one after another. -/
def showTokens : List Token → Run String
  | [] => pure ""
  | token :: rest => do
    let first ← s.showToken token
    let others ← showTokens rest
    return first ++ others

/-- A text with its mentions of parameters replaced. -/
def substitute (text : String) : Run String :=
  s.showTokens (Token.ofString text)

/-! ### Choices -/

/-- Asks a modifier, which may install others whether it accepts or not. -/
def ask (name : String) (call : Call) : Run (Option String) :=
  ⟨s.registry.apply name call, [], s.registry.installs name call⟩

/-- The output when no clause can be chosen. -/
def askDefault : Run String := do
  let output ← s.ask Modifier.defaultName Registry.defaultCall
  return output.getD sentinel

/-- What the modifier of a clause is asked. -/
def callOf (reference : Option Value) (clause : Clause) : Call :=
  ⟨reference, clause.value, clause.text, s.params⟩

/-- The output of a choice from its clauses, of which the first has the given index. -/
def chooseFrom (block : String) (reference : Option Value) :
    Nat → List (Except ClauseFault Clause) → Run String
  | _, [] => do
    Run.warn (.noClauseMatched block)
    s.askDefault
  | index, .error fault :: _ => do
    Run.warn (.malformedClause block index fault)
    s.askDefault
  | index, .ok clause :: rest => do
    Run.warnIf (!s.registry.has clause.modifier) (.unknownModifier block clause.modifier)
    match ← s.ask clause.modifier (s.callOf reference clause) with
    | some output => s.substitute output
    | none => chooseFrom block reference (index + 1) rest

/-- The output of a choice by the value of a reference parameter. -/
def choose (block : String) (reference : String) (clauses : List (Except ClauseFault Clause)) :
    Run String :=
  s.chooseFrom block (s.params.get? reference) 0 clauses

/-! ### Blocks and templates -/

/-- The text of a block. -/
def expandBlock (content : String) : Run (Except ExpansionError String) :=
  match BlockKind.ofContent content with
  | .error reason => pure (.error ⟨content, reason⟩)
  | .ok (.parameter name) => do
    return .ok (← s.showParameter name)
  | .ok (.choice reference logic) => do
    return .ok (← s.choose content reference (Clause.resolveAll s.params logic))

/-- The text of a segment. -/
def expandSegment : Segment → Run (Except ExpansionError String)
  | .literal text => pure (.ok text)
  | .block b => s.expandBlock b.content

/-- The text of segments, or the first error among them, after which nothing is expanded. -/
def expandSegments : List Segment → Run (Except ExpansionError String)
  | [] => pure (.ok "")
  | segment :: rest => do
    match ← s.expandSegment segment with
    | .error e => return .error e
    | .ok first =>
      match ← expandSegments rest with
      | .error e => return .error e
      | .ok others => return .ok (first ++ others)

/-- The text of a template, or the error of its first malformed block. -/
def expandTemplate (t : Template) : Run (Except ExpansionError String) :=
  s.expandSegments t.segments

/-- The expansion of a template given by its text. -/
def expandText (text : String) : Run (Except ExpansionError String) :=
  s.expandTemplate (Template.parse text)

end Setting

namespace Registry

/-- The expansion of a template text that may be absent, with parameters that may be absent, and a
text to fall back on: without a template the fallback, without parameters the template as it stands,
and after an error the fallback again. -/
def runExpand (r : Registry) (text alt : Option String) (params : Option Params) :
    Run (Option String) :=
  match text, params with
  | none, _ => pure alt
  | some text, none => pure (some text)
  | some text, some params => do
    match ← (Setting.mk r params).expandText text with
    | .ok expanded => return some expanded
    | .error _ => return alt

/-- The text of an expansion. -/
def expand (r : Registry) (text alt : Option String) (params : Option Params) : Option String :=
  (r.runExpand text alt params).result

/-- The text of an expansion, or the error that stopped it. -/
def tryExpand (r : Registry) (text : String) (params : Params) : Except ExpansionError String :=
  ((Setting.mk r params).expandText text).result

end Registry

end Phrasebook
