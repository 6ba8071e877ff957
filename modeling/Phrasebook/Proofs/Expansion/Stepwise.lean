import Phrasebook.Proofs.Expansion.Choice
import Phrasebook.Shared

/-!
# Expansion step by step

A run tells what an expansion comes to: its result, and the warnings and installations in the order
in which they came about. Here the same expansion is a program that changes a world as it goes. A
warning is put into the context at the moment it comes up, unless it is there already. A modifier
that is asked acts on its host at that moment, in any way it likes. The output grows from left to
right. Only the registry stays what it was when the expansion began.

The two agree: from every world, the program yields the result of the run and leaves behind what
`World.after` says, the warnings of the run kept and the modifiers that the template asks done with
(`Stepwise.expandTemplate_eq`).
-/

namespace Phrasebook

/-- What changes while an expansion goes on: the warnings kept so far, and the host on which
modifiers act. -/
structure World (σ : Type) where
  kept : List Warning
  host : σ

/-- The world after some warnings and some modifiers that were asked. -/
def World.after {σ : Type} (world : World σ) (act : Modifier → Call → σ → σ)
    (warnings : List Warning) (asked : List (Modifier × Call)) : World σ :=
  ⟨Context.keepAll world.kept warnings, asked.foldl (fun host a => act a.1 a.2 host) world.host⟩

/-! ### The program -/

namespace Stepwise

variable {σ : Type} (s : Setting) (act : Modifier → Call → σ → σ)

/-- Puts a warning into the context. -/
def warn (w : Warning) : StateM (World σ) Unit :=
  modify fun world => { world with kept := Context.keep world.kept w }

/-- Puts a warning into the context if a condition holds. -/
def warnIf (condition : Bool) (w : Warning) : StateM (World σ) Unit :=
  if condition then warn w else pure ()

/-- The text of a parameter, or the sentinel and a warning. -/
def showParameter (name : String) : StateM (World σ) String :=
  match s.params.get? name with
  | some value => return value.display
  | none => do
    warn (.unresolvedParameter name)
    return sentinel

/-- The texts of tokens behind what is put out already. -/
def showTokens : String → List Token → StateM (World σ) String
  | output, [] => return output
  | output, .literal text :: rest => showTokens (output ++ text) rest
  | output, .parameter name :: rest => do
    let text ← showParameter s name
    showTokens (output ++ text) rest

/-- A text with its mentions of parameters replaced. -/
def substitute (text : String) : StateM (World σ) String :=
  showTokens s "" (Token.ofString text)

/-- Asks the modifier of a name, which acts on the host before it answers. -/
def ask (name : String) (call : Call) : StateM (World σ) (Option String) :=
  match s.registry.get? name with
  | none => return none
  | some m => do
    modify fun world => { world with host := act m call world.host }
    return m.output call

/-- The output when no clause can be chosen. -/
def askDefault : StateM (World σ) String := do
  let output ← ask s act Modifier.defaultName Registry.defaultCall
  return output.getD sentinel

/-- The output of a choice from its clauses, of which the first has the given index. -/
def chooseFrom (block : String) (reference : Option Value) :
    Nat → List (Except ClauseFault Clause) → StateM (World σ) String
  | _, [] => do
    warn (.noClauseMatched block)
    askDefault s act
  | index, .error fault :: _ => do
    warn (.malformedClause block index fault)
    askDefault s act
  | index, .ok clause :: rest => do
    warnIf (!s.registry.has clause.modifier) (.unknownModifier block clause.modifier)
    match ← ask s act clause.modifier (s.callOf reference clause) with
    | some output => substitute s output
    | none => chooseFrom block reference (index + 1) rest

/-- The output of a choice by the value of a reference parameter. -/
def choose (block : String) (reference : String) (clauses : List (Except ClauseFault Clause)) :
    StateM (World σ) String :=
  chooseFrom s act block (s.params.get? reference) 0 clauses

/-- The text of a block. -/
def expandBlock (content : String) : StateM (World σ) (Except ExpansionError String) :=
  match BlockKind.ofContent content with
  | .error reason => return .error ⟨content, reason⟩
  | .ok (.parameter name) => return .ok (← showParameter s name)
  | .ok (.choice reference logic) =>
    return .ok (← choose s act content reference (Clause.resolveAll s.params logic))

/-- The texts of segments behind what is put out already, up to the first error. -/
def expandSegments : String → List Segment → StateM (World σ) (Except ExpansionError String)
  | output, [] => return .ok output
  | output, .literal text :: rest => expandSegments (output ++ text) rest
  | output, .block b :: rest => do
    match ← expandBlock s act b.content with
    | .error e => return .error e
    | .ok text => expandSegments (output ++ text) rest

/-- The text of a template. -/
def expandTemplate (t : Template) : StateM (World σ) (Except ExpansionError String) :=
  expandSegments s act "" t.segments

end Stepwise

/-! ### The program agrees with the run -/

namespace World

variable {σ : Type} (world : World σ) (act : Modifier → Call → σ → σ)

/-- What happens in two parts happens one part after the other. -/
theorem after_append (first others : List Warning) (earlier later : List (Modifier × Call)) :
    world.after act (first ++ others) (earlier ++ later) =
      (world.after act first earlier).after act others later := by
  simp [after, Context.keepAll]

end World

namespace Stepwise

variable {σ : Type} (s : Setting) (act : Modifier → Call → σ → σ) (world : World σ)

/-- A program goes on with what its first part yields, in the world that it leaves. -/
theorem run_bind {α β : Type} {first : StateM (World σ) α} {next : α → StateM (World σ) β} {a : α}
    {world later : World σ} (h : first.run world = (a, later)) :
    (first >>= next).run world = (next a).run later := by
  rw [StateT.run_bind, h]
  rfl

/-- A warning is put into the context as the world after it says. -/
theorem warn_eq (w : Warning) : (warn w).run world = ((), world.after act [w] []) := rfl

/-- A warning on a condition is put into the context if it holds. -/
theorem warnIf_eq (condition : Bool) (w : Warning) :
    (warnIf condition w).run world = ((), world.after act (if condition then [w] else []) []) := by
  cases condition with
  | true => rfl
  | false => rfl

/-- Showing a parameter step by step comes to its run. -/
theorem showParameter_eq (name : String) :
    (showParameter s name).run world =
      ((s.showParameter name).result, world.after act (s.showParameter name).warnings []) := by
  unfold showParameter Setting.showParameter
  cases s.params.get? name with
  | some value => rfl
  | none => rfl

/-- Tokens put out their texts behind what is there, as their run says. -/
theorem showTokens_eq (output : String) (tokens : List Token) :
    (showTokens s output tokens).run world =
      (output ++ (s.showTokens tokens).result,
        world.after act (s.showTokens tokens).warnings []) := by
  induction tokens generalizing output world with
  | nil =>
    have hempty : output ++ "" = output := String.append_empty
    rw [showTokens, Setting.showTokens]
    simp only [Run.result_pure, hempty]
    rfl
  | cons token rest ih =>
    cases token with
    | literal text =>
      rw [showTokens, ih]
      simp [Setting.showTokens, Setting.showToken, String.append_assoc]
    | parameter name =>
      have hfirst := showParameter_eq s act world name
      rw [showTokens, run_bind hfirst, ih, ← World.after_append]
      simp [Setting.showTokens, Setting.showToken, String.append_assoc]

/-- Replacing mentions step by step comes to its run. -/
theorem substitute_eq (text : String) :
    (substitute s text).run world =
      ((s.substitute text).result, world.after act (s.substitute text).warnings []) := by
  have htokens := showTokens_eq s act world "" (Token.ofString text)
  rw [String.empty_append] at htokens
  exact htokens

/-! ### Choices -/

/-- Asking a modifier yields what it puts out, and the host has been acted on by it. -/
theorem ask_eq (name : String) (call : Call) :
    (ask s act name call).run world =
      (s.registry.apply name call, world.after act [] (s.askedAs name call)) := by
  unfold ask Registry.apply Setting.askedAs
  cases s.registry.get? name with
  | none => rfl
  | some m => rfl

/-- Asking the default modifier step by step comes to its run. -/
theorem askDefault_eq :
    (askDefault s act).run world =
      (s.askDefault.result,
        world.after act [] (s.askedAs Modifier.defaultName Registry.defaultCall)) := by
  rw [askDefault, run_bind (ask_eq s act world _ _)]
  rfl

/-- A warning and the default output end a choice. -/
theorem warn_then_askDefault (w : Warning) :
    (warn w >>= fun _ => askDefault s act).run world =
      (s.askDefault.result,
        world.after act [w] (s.askedAs Modifier.defaultName Registry.defaultCall)) := by
  rw [run_bind (warn_eq act world w), askDefault_eq, ← World.after_append]
  rfl

/-- A choice step by step yields the result of the run, keeps its warnings and has the modifiers of
its clauses act, in the order in which they are asked. -/
theorem chooseFrom_eq (block : String) (reference : Option Value) (index : Nat)
    (clauses : List (Except ClauseFault Clause)) :
    (chooseFrom s act block reference index clauses).run world =
      ((s.chooseFrom block reference index clauses).result,
        world.after act (s.chooseFrom block reference index clauses).warnings
          (s.asked reference clauses)) := by
  induction clauses generalizing index world with
  | nil => exact warn_then_askDefault s act world _
  | cons first rest ih =>
    cases first with
    | error fault => exact warn_then_askDefault s act world _
    | ok clause =>
      have hunknown : (warnIf (!s.registry.has clause.modifier)
          (.unknownModifier block clause.modifier)).run world = ((), world.after act
            (if s.registry.has clause.modifier then [] else
              [.unknownModifier block clause.modifier]) []) := by
        rw [warnIf_eq act]
        cases s.registry.has clause.modifier <;> rfl
      rw [chooseFrom, run_bind hunknown, run_bind (ask_eq s act _ _ _), ← World.after_append,
        s.result_chooseFrom_ok, s.warnings_chooseFrom_ok, Setting.asked, List.append_nil,
        List.nil_append]
      -- the modifier has acted either way; what comes after it depends on its answer
      cases s.registry.apply clause.modifier (s.callOf reference clause) with
      | some output =>
        simp only [substitute_eq s act, ← World.after_append, Option.isSome_some, if_true]
      | none =>
        simp only [ih, ← World.after_append, Option.isSome_none, Bool.false_eq_true, if_false]

/-! ### Blocks and templates -/

/-- Expanding a block step by step comes to its run, with the modifiers done that it asks. -/
theorem expandBlock_eq (content : String) :
    (expandBlock s act content).run world =
      ((s.expandBlock content).result,
        world.after act (s.expandBlock content).warnings (s.askedByBlock content)) := by
  unfold expandBlock Setting.askedByBlock
  cases hkind : BlockKind.ofContent content with
  | error reason =>
    rw [s.expandBlock_of_error hkind]
    rfl
  | ok kind =>
    cases kind with
    | parameter name =>
      rw [s.expandBlock_of_parameter hkind, Run.result_map, Run.warnings_map]
      exact run_bind (showParameter_eq s act world name)
    | choice reference logic =>
      rw [s.expandBlock_of_choice hkind, Run.result_map, Run.warnings_map]
      exact run_bind (chooseFrom_eq s act world content _ 0 _)

/-- What is put out before a text stands before all of it. -/
theorem map_append_map (output text : String) (r : Except ExpansionError String) :
    (r.map (text ++ ·)).map (output ++ ·) = r.map (output ++ text ++ ·) := by
  cases r with
  | error e => rfl
  | ok others => exact congrArg Except.ok String.append_assoc.symm

/-- Segments step by step: the induction is over the segments behind any output, from any world. -/
theorem expandSegments_eq (output : String) (segments : List Segment) :
    (expandSegments s act output segments).run world =
      ((s.expandSegments segments).result.map (output ++ ·),
        world.after act (s.expandSegments segments).warnings
          ((Template.reached segments).flatMap fun b => s.askedByBlock b.content)) := by
  induction segments generalizing output world with
  | nil =>
    have hempty : output ++ "" = output := String.append_empty
    rw [expandSegments, Setting.expandSegments]
    simp only [Run.result_pure, Except.map, hempty]
    rfl
  | cons segment rest ih =>
    cases segment with
    | literal text =>
      have htext : (s.expandSegment (.literal text)).result = .ok text := rfl
      obtain ⟨hresult, hwarnings⟩ := s.expandSegments_cons_of_ok htext rest
      rw [expandSegments, ih, hresult, hwarnings, Template.reached_literal,
        map_append_map]
      rfl
    | block b =>
      rw [expandSegments, run_bind (expandBlock_eq s act world b.content)]
      cases hkind : BlockKind.ofContent b.content with
      | error reason =>
        -- the segments behind are not reached, neither here nor in the run
        have hexpand := s.expandBlock_of_error hkind
        have hfails : (s.expandSegment (.block b)).result = .error ⟨b.content, reason⟩ := by
          rw [Setting.expandSegment, hexpand]
          rfl
        have hreached := Template.reached_block_of_fault (Template.faultAt?_of_error hkind) rest
        obtain ⟨hresult, hwarnings⟩ := s.expandSegments_cons_of_error hfails rest
        rw [hresult, hwarnings, hreached, Setting.expandSegment, hexpand]
        unfold Setting.askedByBlock
        rw [hkind]
        rfl
      | ok kind =>
        obtain ⟨text, htext⟩ := s.exists_result_expandBlock hkind
        have hsegment : (s.expandSegment (.block b)).result = .ok text := htext
        have hreached := Template.reached_block_of_no_fault (Template.faultAt?_of_ok hkind) rest
        obtain ⟨hresult, hwarnings⟩ := s.expandSegments_cons_of_ok hsegment rest
        rw [hresult, hwarnings, hreached, List.flatMap_cons, map_append_map]
        simp only [htext, ih, ← World.after_append]
        rfl

/-- An expansion step by step yields the result of the run. It keeps the warnings of the run, and
the modifiers that the template asks have acted on the host, one after the other. -/
theorem expandTemplate_eq (t : Template) :
    (expandTemplate s act t).run world =
      ((s.expandTemplate t).result,
        world.after act (s.expandTemplate t).warnings (s.askedByTemplate t)) := by
  have hempty : (s.expandSegments t.segments).result.map ("" ++ ·) =
      (s.expandSegments t.segments).result := by
    cases (s.expandSegments t.segments).result with
    | error e => rfl
    | ok text => exact congrArg Except.ok String.empty_append
  have hsegments := expandSegments_eq s act world "" t.segments
  rw [hempty] at hsegments
  exact hsegments

end Stepwise

end Phrasebook
