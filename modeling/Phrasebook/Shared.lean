import Phrasebook.Expansion

/-!
# What expansions share

A context keeps the parameters of several expansions and the warnings they gave. Each warning is
kept once, where it first came up, until all are taken.

One registry may be shared by a whole program. An expansion with it works on the registry as it was
when the expansion began; what modifiers install meanwhile is registered when they are asked, and is
seen by later expansions.
-/

/-! ## Contexts -/

namespace Phrasebook

/-- Parameters, and the warnings given so far. -/
structure Context where
  params : Params
  warnings : List Warning

namespace Context

/-- The context before anything happened. -/
def fresh (params : Params) : Context := ⟨params, []⟩

/-- A list of warnings with a further one, unless it is there already. -/
def keep (kept : List Warning) (w : Warning) : List Warning :=
  if w ∈ kept then kept else kept ++ [w]

/-- A list of warnings with further ones that are not there already, each once. -/
def keepAll (kept : List Warning) (offered : List Warning) : List Warning :=
  offered.foldl keep kept

/-- The context after a warning. -/
def warn (c : Context) (w : Warning) : Context :=
  { c with warnings := keep c.warnings w }

/-- The result of a run in this context, and the context after it. -/
def perform {α : Type} (c : Context) (registry : Registry) (run : Setting → Run α) : α × Context :=
  let after := run ⟨registry, c.params⟩
  (after.result, { c with warnings := keepAll c.warnings after.warnings })

/-- All warnings, and the context without them. -/
def take (c : Context) : List Warning × Context :=
  (c.warnings, { c with warnings := [] })

end Context

/-- The text of a template, or the error of its first malformed block, and the warnings that a fresh
context holds after it. -/
def Template.evaluate (t : Template) (registry : Registry) (params : Params) :
    Except ExpansionError String × List Warning :=
  let (result, after) := (Context.fresh params).perform registry (·.expandTemplate t)
  (result, after.warnings)

end Phrasebook

/-! ## The shared registry -/

namespace Phrasebook.Shared

/-- The registry that a program starts with. -/
def initial : Registry := Registry.builtin

/-- The text of an expansion, and the shared registry after it. -/
def expand (shared : Registry) (text alt : Option String) (params : Option Params) :
    Option String × Registry :=
  let run := shared.runExpand text alt params
  (run.result, shared.registerAll run.installed)

end Phrasebook.Shared
