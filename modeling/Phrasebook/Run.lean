import Phrasebook.Block
import Phrasebook.Clause
import Phrasebook.Modifier

/-!
# Runs

A part of an expansion yields a result, and on the way it gives warnings and lets modifiers install
others. A run is all three: its warnings and installations stand in the order in which they came
about, and running one part after another appends them. Nothing that a part does depends on the
warnings or installations of the parts before it.
-/

/-! ## Errors and warnings

An expansion stops at a block that is neither a parameter nor a choice. All else that is amiss is
only noticed: it leads to a warning, and the expansion goes on.
-/

namespace Phrasebook

/-- Text in the braces of a block, as messages show it. -/
def inBraces (content : String) : String :=
  "@\x7b" ++ content ++ "\x7d"

/-- Why an expansion stopped: a block's content and what is wrong with it. -/
structure ExpansionError where
  block : String
  reason : BlockFault
  deriving DecidableEq, Repr

namespace ExpansionError

/-- The wording of the error. -/
def message (e : ExpansionError) : String :=
  s!"malformed block '{inBraces e.block}': {e.reason.message}"

end ExpansionError

/-- What is noticed during an expansion. -/
inductive Warning where
  | unknownModifier (block : String) (name : String)
  | malformedClause (block : String) (index : Nat) (fault : ClauseFault)
  | noClauseMatched (block : String)
  | unresolvedParameter (name : String)
  deriving DecidableEq, Repr

namespace Warning

/-- The wording of a warning. -/
def message : Warning → String
  | unknownModifier block name => s!"unknown modifier '{name}' in '{inBraces block}'"
  | malformedClause block index fault => s!"clause {index} of '{inBraces block}': {fault.message}"
  | noClauseMatched block => s!"no clause matched in '{inBraces block}'"
  | unresolvedParameter name => s!"parameter '{name}' is not set"

end Warning

/-! ## Runs -/

/-- A result with the warnings given and the modifiers installed on the way. -/
structure Run (α : Type) where
  result : α
  warnings : List Warning
  installed : List (String × Modifier)

namespace Run

variable {α β : Type}

/-- The run that only yields a result. -/
def done (result : α) : Run α := ⟨result, [], []⟩

/-- A run followed by one that depends on its result. -/
def andThen (run : Run α) (next : α → Run β) : Run β :=
  let after := next run.result
  ⟨after.result, run.warnings ++ after.warnings, run.installed ++ after.installed⟩

/-- Running one part after another. -/
instance : Monad Run where
  pure := done
  bind := andThen

/-- A run that gives one warning. -/
def warn (w : Warning) : Run Unit := ⟨(), [w], []⟩

/-- A run that gives a warning if a condition holds. -/
def warnIf (condition : Bool) (w : Warning) : Run Unit :=
  ⟨(), if condition then [w] else [], []⟩

/-- Runs may be regrouped, and the run that only yields a result adds nothing to others. -/
instance : LawfulMonad Run :=
  LawfulMonad.mk' Run (fun _ => by simp [Functor.map, andThen, done])
    (fun _ _ => by simp [bind, pure, andThen, done])
    (fun _ _ _ => by simp [bind, andThen])

/-- The run that only yields a result yields it. -/
@[simp] theorem result_pure (a : α) : (pure a : Run α).result = a := rfl

/-- The run that only yields a result gives no warning. -/
@[simp] theorem warnings_pure (a : α) : (pure a : Run α).warnings = [] := rfl

/-- The run that only yields a result installs nothing. -/
@[simp] theorem installed_pure (a : α) : (pure a : Run α).installed = [] := rfl

/-- The result of two runs is that of the second one. -/
@[simp] theorem result_bind (run : Run α) (next : α → Run β) :
    (run >>= next).result = (next run.result).result := rfl

/-- The warnings of two runs are those of the first one and then those of the second one. -/
@[simp] theorem warnings_bind (run : Run α) (next : α → Run β) :
    (run >>= next).warnings = run.warnings ++ (next run.result).warnings := rfl

/-- Two runs install what the first one installs and then what the second one does. -/
@[simp] theorem installed_bind (run : Run α) (next : α → Run β) :
    (run >>= next).installed = run.installed ++ (next run.result).installed := rfl

/-- A function applied to a run is applied to its result. -/
@[simp] theorem result_map (f : α → β) (run : Run α) : (f <$> run).result = f run.result := rfl

/-- A function applied to a run leaves its warnings as they are. -/
@[simp] theorem warnings_map (f : α → β) (run : Run α) : (f <$> run).warnings = run.warnings :=
  List.append_nil _

/-- A function applied to a run leaves what it installs as it is. -/
@[simp] theorem installed_map (f : α → β) (run : Run α) : (f <$> run).installed = run.installed :=
  List.append_nil _

end Run

end Phrasebook
