import Mathlib.Data.List.DropRight
import Phrasebook.Proofs.Expansion.Stepwise

/-!
# What a context remembers

A context goes through a history of evaluations, warnings put in from outside and takings. Whatever
the history was, an evaluation yields what it yields in a fresh context, and what it leaves in the
context are the warnings that were there, followed by those it would leave in a fresh context and
that are new (`Context.evaluate_after_history`). So the history shows in nothing but the warnings,
and these are the ones offered since the last taking, each once, in the order in which they first
came up.

Evaluations are taken here as the programs of `Stepwise`, which put a warning into the context at
the moment it comes up. The list algebra of keeping warnings comes first: keeping is appending what
is new (`keepAll_eq`).
-/

namespace Phrasebook

namespace Context

/-! ### Keeping warnings -/

/-- A warning that is there already is not kept again. -/
theorem keep_of_mem {kept : List Warning} {w : Warning} (h : w ∈ kept) : keep kept w = kept :=
  if_pos h

/-- A new warning is kept behind the others. -/
theorem keep_of_not_mem {kept : List Warning} {w : Warning} (h : w ∉ kept) :
    keep kept w = kept ++ [w] :=
  if_neg h

/-- The last of several warnings is kept last. -/
theorem keepAll_concat (kept offered : List Warning) (w : Warning) :
    keepAll kept (offered ++ [w]) = keep (keepAll kept offered) w :=
  List.foldl_concat ..

/-- Warnings of two parts are kept one part after the other. -/
theorem keepAll_append (kept first others : List Warning) :
    keepAll kept (first ++ others) = keepAll (keepAll kept first) others :=
  List.foldl_append

/-- A list without repetitions grows at its end, by an element that it does not hold yet. -/
theorem eraseDups_concat (ws : List Warning) (w : Warning) :
    (ws ++ [w]).eraseDups = if w ∈ ws then ws.eraseDups else ws.eraseDups ++ [w] := by
  rw [List.eraseDups_append]
  split
  · next hmem => simp [List.removeAll, hmem]
  · next hnew => simp [List.removeAll, hnew, List.eraseDups_cons]

/-- Warnings that are offered are appended, each once, unless they were there before. -/
theorem keepAll_eq (kept offered : List Warning) :
    keepAll kept offered = kept ++ offered.eraseDups.filter (· ∉ kept) := by
  induction offered using List.reverseRecOn with
  | nil => simp [keepAll]
  | append_singleton earlier w ih =>
    rw [keepAll_concat, eraseDups_concat]
    by_cases hearlier : w ∈ earlier
    · have hkept : w ∈ keepAll kept earlier := mem_keepAll.mpr (Or.inr hearlier)
      rw [keep_of_mem hkept, if_pos hearlier, ih]
    · rw [if_neg hearlier, List.filter_append]
      by_cases hbefore : w ∈ kept
      · have hkept : w ∈ keepAll kept earlier := mem_keepAll.mpr (Or.inl hbefore)
        rw [keep_of_mem hkept, ih]
        simp [hbefore]
      · have hnew : w ∉ keepAll kept earlier := by
          rw [mem_keepAll, not_or]
          exact ⟨hbefore, hearlier⟩
        rw [keep_of_not_mem hnew, ih]
        simp [hbefore]

/-- An empty list of warnings keeps those that are offered, each once. -/
theorem keepAll_nil (offered : List Warning) : keepAll [] offered = offered.eraseDups := by
  rw [keepAll_eq]
  simp

/-- What is offered twice is kept as if it were offered once. -/
theorem keepAll_eraseDups (kept offered : List Warning) :
    keepAll kept offered.eraseDups = keepAll kept offered := by
  induction offered using List.reverseRecOn with
  | nil => rfl
  | append_singleton earlier w ih =>
    rw [keepAll_concat, eraseDups_concat]
    by_cases hearlier : w ∈ earlier
    · have hkept : w ∈ keepAll kept earlier := mem_keepAll.mpr (Or.inr hearlier)
      rw [if_pos hearlier, ih, keep_of_mem hkept]
    · rw [if_neg hearlier, keepAll_concat, ih]

/-- Nothing changes when all that is offered is there already. -/
theorem keepAll_of_subset {kept offered : List Warning} (h : offered ⊆ kept) :
    keepAll kept offered = kept := by
  induction offered with
  | nil => rfl
  | cons first rest ih =>
    have hfirst : keep kept first = kept := keep_of_mem (h List.mem_cons_self)
    have hrest : rest ⊆ kept := fun w hw => h (List.mem_cons_of_mem _ hw)
    calc keepAll kept (first :: rest) = keepAll (keep kept first) rest := rfl
      _ = keepAll kept rest := by rw [hfirst]
      _ = kept := ih hrest

/-- A list without duplicates gets none. -/
theorem nodup_keepAll {kept : List Warning} (h : kept.Nodup) (offered : List Warning) :
    (keepAll kept offered).Nodup := by
  induction offered generalizing kept with
  | nil => exact h
  | cons first rest ih =>
    refine ih ?_
    by_cases hmem : first ∈ kept
    · rw [keep_of_mem hmem]
      exact h
    · rw [keep_of_not_mem hmem, List.nodup_append]
      refine ⟨h, by simp, fun w hw w' hw' heq => ?_⟩
      rw [heq, List.mem_singleton.mp hw'] at hw
      exact hmem hw

end Context

/-! ### Evaluations -/

/-- What can be evaluated in a context. -/
inductive Evaluation where
  | substitute (text : String)
  | choice (content reference : String) (clauses : List (Except ClauseFault Clause))
  | block (content : String)
  | template (t : Template)

namespace Evaluation

/-- The run of an evaluation. Only blocks and templates can fail. -/
def run (s : Setting) : Evaluation → Run (Except ExpansionError String)
  | .substitute text => .ok <$> s.substitute text
  | .choice content reference clauses => .ok <$> s.choose content reference clauses
  | .block content => s.expandBlock content
  | .template t => s.expandTemplate t

/-- The modifiers that an evaluation asks. -/
def asked (s : Setting) : Evaluation → List (Modifier × Call)
  | .substitute _ => []
  | .choice _ reference clauses => s.asked (s.params.get? reference) clauses
  | .block content => s.askedByBlock content
  | .template t => s.askedByTemplate t

/-- An evaluation step by step. -/
def steps {σ : Type} (s : Setting) (act : Modifier → Call → σ → σ) :
    Evaluation → StateM (World σ) (Except ExpansionError String)
  | .substitute text => .ok <$> Stepwise.substitute s text
  | .choice content reference clauses => .ok <$> Stepwise.choose s act content reference clauses
  | .block content => Stepwise.expandBlock s act content
  | .template t => Stepwise.expandTemplate s act t

/-- Every evaluation does step by step what its run says. -/
theorem steps_eq {σ : Type} (s : Setting) (act : Modifier → Call → σ → σ) (world : World σ)
    (e : Evaluation) :
    (e.steps s act).run world =
      ((e.run s).result, world.after act (e.run s).warnings (e.asked s)) := by
  cases e with
  | substitute text =>
    rw [steps, run, Run.result_map, Run.warnings_map, StateT.run_map,
      Stepwise.substitute_eq s act]
    rfl
  | choice content reference clauses =>
    rw [steps, run, Run.result_map, Run.warnings_map, StateT.run_map, Stepwise.choose,
      Stepwise.chooseFrom_eq s act]
    rfl
  | block content => exact Stepwise.expandBlock_eq s act world content
  | template t => exact Stepwise.expandTemplate_eq s act world t

end Evaluation

namespace Context

/-- What an evaluation yields in a context, and the context after it. Its modifiers act on
nothing. -/
def evaluate (c : Context) (registry : Registry) (e : Evaluation) :
    Except ExpansionError String × Context :=
  let (result, world) :=
    (e.steps ⟨registry, c.params⟩ (fun _ _ host => host)).run ⟨c.warnings, ()⟩
  (result, { c with warnings := world.kept })

/-- Performing the run of an evaluation comes to the same. -/
theorem evaluate_eq_perform (c : Context) (registry : Registry) (e : Evaluation) :
    c.evaluate registry e = c.perform registry fun s => e.run s := by
  rw [evaluate, Evaluation.steps_eq]
  rfl

/-- What happens to a context. -/
inductive Action where
  | evaluate (registry : Registry) (e : Evaluation)
  | warn (w : Warning)
  | take

namespace Action

/-- Whether the warnings are taken. -/
def isTake : Action → Bool
  | take => true
  | _ => false

/-- The warnings that an action offers to a context with the given parameters: an evaluation those
that it leaves in a fresh one. -/
def offered (params : Params) : Action → List Warning
  | evaluate registry e => ((fresh params).evaluate registry e).2.warnings
  | warn w => [w]
  | take => []

end Action

/-- The context after an action. -/
def act (c : Context) : Action → Context
  | .evaluate registry e => (c.evaluate registry e).2
  | .warn w => c.warn w
  | .take => c.take.2

/-- The context after several actions. -/
def after (c : Context) (history : List Action) : Context :=
  history.foldl act c

/-- The actions since the warnings were last taken. -/
def sinceTaken (history : List Action) : List Action :=
  history.rtakeWhile (!·.isTake)

/-! ### One action -/

/-- In a fresh context an evaluation leaves the warnings of its run, each once. -/
theorem evaluate_fresh (params : Params) (registry : Registry) (e : Evaluation) :
    (fresh params).evaluate registry e =
      ((e.run ⟨registry, params⟩).result,
        ⟨params, (e.run ⟨registry, params⟩).warnings.eraseDups⟩) := by
  rw [evaluate_eq_perform, ← keepAll_nil]
  rfl

/-- An evaluation in any context yields what it yields in a fresh one, and offers what it leaves
there. -/
theorem evaluate_eq (c : Context) (registry : Registry) (e : Evaluation) :
    c.evaluate registry e =
      (((fresh c.params).evaluate registry e).1,
        ⟨c.params, keepAll c.warnings (Action.offered c.params (.evaluate registry e))⟩) := by
  rw [Action.offered, evaluate_fresh, keepAll_eraseDups, evaluate_eq_perform]
  rfl

/-- What an evaluation leaves are the warnings that were there and then those that it leaves in a
fresh context and that are new. -/
theorem evaluate_eq_append (c : Context) (registry : Registry) (e : Evaluation) :
    c.evaluate registry e =
      (((fresh c.params).evaluate registry e).1,
        ⟨c.params, c.warnings ++
          ((fresh c.params).evaluate registry e).2.warnings.filter (· ∉ c.warnings)⟩) := by
  rw [evaluate_eq, Action.offered, evaluate_fresh, keepAll_eraseDups, keepAll_eq]

/-- What an action does to a context in which the warnings are not taken. -/
theorem act_eq {a : Action} (h : a.isTake = false) (c : Context) :
    c.act a = ⟨c.params, keepAll c.warnings (a.offered c.params)⟩ := by
  cases a with
  | evaluate registry e => rw [act, evaluate_eq]
  | warn w => rfl
  | take => cases h

/-! ### A whole history -/

/-- The last action of a history comes after the others. -/
theorem after_concat (c : Context) (history : List Action) (a : Action) :
    c.after (history ++ [a]) = (c.after history).act a :=
  List.foldl_concat ..

/-- After a history, a context holds what was offered since the warnings were last taken. -/
theorem after_fresh (params : Params) (history : List Action) :
    (fresh params).after history =
      ⟨params, ((sinceTaken history).flatMap (Action.offered params)).eraseDups⟩ := by
  induction history using List.reverseRecOn with
  | nil => rfl
  | append_singleton earlier a ih =>
    rw [after_concat, ih]
    cases htake : a.isTake with
    | false =>
      have hsince : sinceTaken (earlier ++ [a]) = sinceTaken earlier ++ [a] :=
        List.rtakeWhile_concat_pos _ _ _ (by simp [htake])
      rw [act_eq htake, hsince, List.flatMap_append, List.flatMap_singleton, ← keepAll_nil,
        ← keepAll_nil, keepAll_append]
    | true =>
      have hsince : sinceTaken (earlier ++ [a]) = [] :=
        List.rtakeWhile_concat_neg _ _ _ (by simp [htake])
      cases a with
      | take => rw [hsince]; rfl
      | evaluate registry e => cases htake
      | warn w => cases htake

/-- Actions among which the warnings are not taken add to the context what they offer. -/
theorem after_of_untaken {between : List Action} (h : .take ∉ between) (c : Context) :
    c.after between =
      ⟨c.params, keepAll c.warnings (between.flatMap (Action.offered c.params))⟩ := by
  induction between generalizing c with
  | nil => rfl
  | cons a rest ih =>
    have huntaken : a.isTake = false := by
      cases a with
      | take => exact absurd List.mem_cons_self h
      | evaluate registry e => rfl
      | warn w => rfl
    have hrest := ih (fun hmem => h (List.mem_cons_of_mem _ hmem)) (c.act a)
    have hcons : c.after (a :: rest) = (c.act a).after rest := rfl
    rw [hcons, hrest, act_eq huntaken, List.flatMap_cons, keepAll_append]

/-- An evaluation repeated after actions among which the warnings are not taken changes nothing. -/
theorem evaluate_again {between : List Action} (h : .take ∉ between) (c : Context)
    (registry : Registry) (e : Evaluation) :
    ((c.evaluate registry e).2.after between).evaluate registry e =
      (((fresh c.params).evaluate registry e).1, (c.evaluate registry e).2.after between) := by
  have hbefore : (c.evaluate registry e).2 =
      ⟨c.params, keepAll c.warnings (Action.offered c.params (.evaluate registry e))⟩ := by
    rw [evaluate_eq]
  rw [hbefore, after_of_untaken h, evaluate_eq]
  have hsubset : Action.offered c.params (.evaluate registry e) ⊆
      keepAll (keepAll c.warnings (Action.offered c.params (.evaluate registry e)))
        (between.flatMap (Action.offered c.params)) := by
    intro w hw
    exact mem_keepAll.mpr (Or.inl (mem_keepAll.mpr (Or.inr hw)))
  rw [keepAll_of_subset hsubset]

/-- An evaluation after any history yields what it yields in a fresh context, also where it fails,
and leaves the warnings that were there, followed by those that it leaves in a fresh context and
that are new. It is the same to perform its run. No warning is ever there twice, and taking them
returns what was offered since they were last taken, each once. Until then the evaluation can be
repeated, and changes nothing any more. -/
theorem evaluate_after_history (params : Params) (history : List Action) (registry : Registry)
    (e : Evaluation) :
    let c := (fresh params).after history
    let alone := (fresh params).evaluate registry e
    c.evaluate registry e =
        (alone.1, ⟨params, c.warnings ++ alone.2.warnings.filter (· ∉ c.warnings)⟩) ∧
      c.evaluate registry e = (c.perform registry fun s => e.run s) ∧
      c.warnings.Nodup ∧
      c.take = (((sinceTaken history).flatMap (Action.offered params)).eraseDups, fresh params) ∧
      ∀ between : List Action, .take ∉ between →
        let later := (c.evaluate registry e).2.after between
        later.evaluate registry e = (alone.1, later) := by
  intro c alone
  have hc : c = ⟨params, ((sinceTaken history).flatMap (Action.offered params)).eraseDups⟩ :=
    after_fresh params history
  have hparams : c.params = params := by rw [hc]
  refine ⟨?_, evaluate_eq_perform c registry e, ?_, ?_, ?_⟩
  · have happend := evaluate_eq_append c registry e
    rw [hparams] at happend
    exact happend
  · rw [hc, ← keepAll_nil]
    exact nodup_keepAll List.nodup_nil _
  · rw [hc]
    rfl
  · intro between huntaken
    have hagain := evaluate_again huntaken c registry e
    rw [hparams] at hagain
    exact hagain

/-- The evaluation of a template that fails at its last block, in a context that was used before: of
the two parameters that it misses, one was missed since the warnings were taken. Repeated after
another warning it changes nothing. -/
theorem evaluate_after_history_failing :
    (.take : Action) ∉ [.warn (.noClauseMatched "ref=n")] ∧
    (let c := (fresh ∅).after
      [.evaluate .builtin (.substitute "$y"), .take, .evaluate .empty (.block "var=x")]
    let e := Evaluation.template (Template.parse "@\x7bvar=y\x7d@\x7bvar=x\x7d@\x7bref=n\x7d")
    let later := (c.evaluate .builtin e).2.after [.warn (.noClauseMatched "ref=n")]
    (c.evaluate .builtin e).1 = .error ⟨"ref=n", .missingLogic⟩ ∧
      (c.evaluate .builtin e).2.warnings = [.unresolvedParameter "x", .unresolvedParameter "y"] ∧
      later.evaluate .builtin e = (.error ⟨"ref=n", .missingLogic⟩, later)) := by
  have huntaken : (.take : Action) ∉ [.warn (.noClauseMatched "ref=n")] := by simp
  obtain ⟨hafter, -, -, -, hagain⟩ := evaluate_after_history ∅
    [.evaluate .builtin (.substitute "$y"), .take, .evaluate .empty (.block "var=x")] .builtin
    (.template (Template.parse "@\x7bvar=y\x7d@\x7bvar=x\x7d@\x7bref=n\x7d"))
  have halone : ((fresh ∅).evaluate .builtin (.template
      (Template.parse "@\x7bvar=y\x7d@\x7bvar=x\x7d@\x7bref=n\x7d"))).1 =
      .error ⟨"ref=n", .missingLogic⟩ := by
    decide +kernel
  refine ⟨huntaken, ?_, ?_, ?_⟩
  · rw [hafter]
    exact halone
  · decide +kernel
  · rw [← halone]
    exact hagain _ huntaken

end Context

end Phrasebook
