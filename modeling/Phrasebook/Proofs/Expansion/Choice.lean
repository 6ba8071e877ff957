import Phrasebook.Modifier
import Phrasebook.Proofs.Expansion.Warnings

/-!
# Which clause a choice takes

A choice asks its clauses one after another. `chosen?` is the output of the clause that accepts, if
the choice comes to one before a clause without some of its fields and before the end; the text of
the choice is that output with its mentions replaced, and otherwise what the default modifier says
(`result_chooseFrom`). Only a clause that accepts leads to unset parameters being noticed
(`mem_warnings_chooseFrom_unresolved`).
-/

/-! ## What the built-in modifiers look at

A registry holds what it was given (`get?_registerAll`), so the modifiers of the built-in registry
are the five comparisons and the default modifier. None of them looks at the parameters
(`apply_builtin_params`), and what they put out is the text of the clause or the sentinel
(`eq_of_apply_builtin`): no built-in modifier makes up a mention of a parameter.
-/

namespace Phrasebook

namespace Modifier

/-- The built-in modifiers are comparisons, and the one that always speaks. -/
theorem eq_of_mem_builtins {name : String} {m : Modifier} (h : (name, m) ∈ builtins) :
    (∃ accept, m = comparing accept) ∨ m = sentinelAlways := by
  simp only [builtins, List.mem_cons, Prod.mk.injEq, List.not_mem_nil, or_false] at h
  rcases h with ⟨-, h⟩ | ⟨-, h⟩ | ⟨-, h⟩ | ⟨-, h⟩ | ⟨-, h⟩ | ⟨-, h⟩
  · exact Or.inl ⟨_, h⟩
  · exact Or.inl ⟨_, h⟩
  · exact Or.inl ⟨_, h⟩
  · exact Or.inl ⟨_, h⟩
  · exact Or.inl ⟨_, h⟩
  · exact Or.inr h

/-- A comparison that accepts puts out the text of the clause. -/
theorem eq_text_of_output_comparing {accept : Ordering → Bool} {call : Call} {output : String}
    (h : (comparing accept).output call = some output) : output = call.text := by
  simp only [comparing, ofOutput] at h
  split at h
  · split at h
    · exact (Option.some.inj h).symm
    · cases h
  · cases h

end Modifier

namespace Registry

/-- What is found after several registrations was among them or was there before. -/
theorem get?_registerAll {r : Registry} {entries : List (String × Modifier)} {name : String}
    {m : Modifier} (h : (r.registerAll entries).get? name = some m) :
    (name, m) ∈ entries ∨ r.get? name = some m := by
  induction entries generalizing r with
  | nil => exact Or.inr h
  | cons entry rest ih =>
    rcases ih (r := r.register entry.1 entry.2) h with hrest | hfirst
    · exact Or.inl (List.mem_cons_of_mem _ hrest)
    · rw [get?_register] at hfirst
      split at hfirst
      · next hname =>
        obtain rfl := Option.some.inj hfirst
        exact Or.inl (hname ▸ List.mem_cons_self)
      · exact Or.inr hfirst

/-- What is found in the built-in registry is a comparison or the modifier that always speaks. -/
theorem get?_builtin {name : String} {m : Modifier} (h : builtin.get? name = some m) :
    (∃ accept, m = .comparing accept) ∨ m = .sentinelAlways := by
  rcases get?_registerAll h with hmem | hempty
  · exact Modifier.eq_of_mem_builtins hmem
  · cases hempty

/-- No built-in modifier looks at the parameters. -/
theorem apply_builtin_params (name : String) (reference : Option Value) (value : Value)
    (text : String) (params params' : Params) :
    builtin.apply name ⟨reference, value, text, params⟩ =
      builtin.apply name ⟨reference, value, text, params'⟩ := by
  unfold apply
  cases hm : builtin.get? name with
  | none => rfl
  | some m =>
    rcases get?_builtin hm with ⟨accept, rfl⟩ | rfl
    · rfl
    · rfl

/-- A built-in modifier puts out the text of the clause or the sentinel. -/
theorem eq_of_apply_builtin {name : String} {call : Call} {output : String}
    (h : builtin.apply name call = some output) : output = call.text ∨ output = sentinel := by
  unfold apply at h
  cases hm : builtin.get? name with
  | none =>
    rw [hm] at h
    cases h
  | some m =>
    rw [hm, Option.bind_some] at h
    rcases get?_builtin hm with ⟨accept, rfl⟩ | rfl
    · exact Or.inl (Modifier.eq_text_of_output_comparing h)
    · exact Or.inr (Option.some.inj h).symm

end Registry

end Phrasebook

/-! ## The clause that is taken -/

namespace Phrasebook.Setting

variable (s : Setting)

/-- The output of the first clause that accepts, if no incomplete one comes before it. -/
def chosen? (reference : Option Value) : List (Except ClauseFault Clause) → Option String
  | [] => none
  | .error _ :: _ => none
  | .ok clause :: rest =>
    match s.registry.apply clause.modifier (s.callOf reference clause) with
    | some output => some output
    | none => chosen? reference rest

/-- A clause that accepts is chosen, whatever follows it. -/
theorem chosen?_of_accepts {reference : Option Value} {clause : Clause} {output : String}
    (h : s.registry.apply clause.modifier (s.callOf reference clause) = some output)
    (rest : List (Except ClauseFault Clause)) :
    s.chosen? reference (.ok clause :: rest) = some output := by
  rw [chosen?, h]

/-- After a clause that declines, the choice is among those that follow. -/
theorem chosen?_of_declines {reference : Option Value} {clause : Clause}
    (h : s.registry.apply clause.modifier (s.callOf reference clause) = none)
    (rest : List (Except ClauseFault Clause)) :
    s.chosen? reference (.ok clause :: rest) = s.chosen? reference rest := by
  rw [chosen?, h]

/-! ### The text of a choice -/

/-- The text of a choice whose first clause is complete. -/
theorem result_chooseFrom_ok (block : String) (reference : Option Value) (index : Nat)
    (clause : Clause) (rest : List (Except ClauseFault Clause)) :
    (s.chooseFrom block reference index (.ok clause :: rest)).result =
      match s.registry.apply clause.modifier (s.callOf reference clause) with
      | some output => (s.substitute output).result
      | none => (s.chooseFrom block reference (index + 1) rest).result := by
  have hask : (s.ask clause.modifier (s.callOf reference clause)).result =
      s.registry.apply clause.modifier (s.callOf reference clause) := rfl
  rw [chooseFrom, Run.result_bind, Run.result_bind, hask]
  cases s.registry.apply clause.modifier (s.callOf reference clause) <;> rfl

/-- The text of a choice is the chosen output with its mentions replaced, or the default output as
it is. -/
theorem result_chooseFrom (block : String) (reference : Option Value) (index : Nat)
    (clauses : List (Except ClauseFault Clause)) :
    (s.chooseFrom block reference index clauses).result =
      match s.chosen? reference clauses with
      | some output => (s.substitute output).result
      | none => s.registry.applyDefault := by
  induction clauses generalizing index with
  | nil => rfl
  | cons first rest ih =>
    cases first with
    | error fault => rfl
    | ok clause =>
      rw [result_chooseFrom_ok]
      cases happly : s.registry.apply clause.modifier (s.callOf reference clause) with
      | some output => rw [chosen?_of_accepts s happly]
      | none => rw [chosen?_of_declines s happly, ← ih]

/-! ### Unset parameters in the output -/

/-- An unset parameter that a choice notices is one that the chosen output mentions. -/
theorem mem_warnings_chooseFrom_unresolved {block name : String} {reference : Option Value}
    {index : Nat} {clauses : List (Except ClauseFault Clause)} :
    .unresolvedParameter name ∈ (s.chooseFrom block reference index clauses).warnings ↔
      ∃ output, s.chosen? reference clauses = some output ∧
        .unresolvedParameter name ∈ (s.substitute output).warnings := by
  induction clauses generalizing index with
  | nil => simp [warnings_chooseFrom_nil, chosen?]
  | cons first rest ih =>
    cases first with
    | error fault => simp [warnings_chooseFrom_error, chosen?]
    | ok clause =>
      have hunknown : Warning.unresolvedParameter name ∉
          (if s.registry.has clause.modifier then [] else
            [Warning.unknownModifier block clause.modifier]) := by
        split <;> simp
      rw [warnings_chooseFrom_ok, List.mem_append]
      cases happly : s.registry.apply clause.modifier (s.callOf reference clause) with
      | some output => simp [chosen?_of_accepts s happly, hunknown]
      | none => simp only [chosen?_of_declines s happly, hunknown, false_or, ih]

/-! ### Choices by the built-in modifiers -/

/-- With the built-in modifiers the choice does not depend on the parameters. -/
theorem chosen?_builtin_params (params params' : Params) (reference : Option Value)
    (clauses : List (Except ClauseFault Clause)) :
    (Setting.mk .builtin params).chosen? reference clauses =
      (Setting.mk .builtin params').chosen? reference clauses := by
  induction clauses with
  | nil => rfl
  | cons first rest ih =>
    cases first with
    | error fault => rfl
    | ok clause =>
      have happly := Registry.apply_builtin_params clause.modifier reference clause.value
        clause.text params params'
      simp only [chosen?, callOf, happly, ih]

/-! ## Which modifiers an expansion asks

A choice asks the modifiers of its clauses one after another until one accepts, and the default one
if none does; a template asks those of its choices, up to its first malformed block. `asked`,
`askedByBlock` and `askedByTemplate` list the modifiers in this order, each with what it is asked. A
run installs what they install, in the same order (`installed_expandTemplate`).
-/

/-- The modifier of a name with what it is asked, if the name is registered. -/
def askedAs (name : String) (call : Call) : List (Modifier × Call) :=
  ((s.registry.get? name).map fun m => (m, call)).toList

/-- The modifiers that a choice asks: those of its clauses up to the one that accepts, and the
default one if none does or a clause lacks a field. -/
def asked (reference : Option Value) : List (Except ClauseFault Clause) → List (Modifier × Call)
  | [] => s.askedAs Modifier.defaultName Registry.defaultCall
  | .error _ :: _ => s.askedAs Modifier.defaultName Registry.defaultCall
  | .ok clause :: rest =>
    s.askedAs clause.modifier (s.callOf reference clause) ++
      if (s.registry.apply clause.modifier (s.callOf reference clause)).isSome then []
      else asked reference rest

/-- The modifiers that a block asks. -/
def askedByBlock (content : String) : List (Modifier × Call) :=
  match BlockKind.ofContent content with
  | .ok (.choice reference logic) =>
    s.asked (s.params.get? reference) (Clause.resolveAll s.params logic)
  | _ => []

/-- The modifiers that a template asks: those of the blocks before the first malformed one. -/
def askedByTemplate (t : Template) : List (Modifier × Call) :=
  (Template.reached t.segments).flatMap fun b => s.askedByBlock b.content

/-! ### What a run installs -/

/-- Showing a parameter installs nothing. -/
theorem installed_showParameter (name : String) : (s.showParameter name).installed = [] := by
  unfold showParameter
  cases s.params.get? name <;> rfl

/-- Replacing mentions installs nothing. -/
theorem installed_substitute (text : String) : (s.substitute text).installed = [] := by
  unfold substitute
  induction Token.ofString text with
  | nil => rfl
  | cons token rest ih =>
    cases token with
    | literal text => simp [showTokens, showToken, ih]
    | parameter name => simp [showTokens, showToken, ih, installed_showParameter]

/-- Asking a modifier installs what it installs, if it is registered. -/
theorem installed_ask (name : String) (call : Call) :
    (s.ask name call).installed = (s.askedAs name call).flatMap fun a => a.1.installs a.2 := by
  unfold ask askedAs Registry.installs
  cases s.registry.get? name with
  | none => rfl
  | some m => simp

/-- A choice installs what the modifiers that it asks install. -/
theorem installed_chooseFrom (block : String) (reference : Option Value) (index : Nat)
    (clauses : List (Except ClauseFault Clause)) :
    (s.chooseFrom block reference index clauses).installed =
      (s.asked reference clauses).flatMap fun a => a.1.installs a.2 := by
  have hdefault : s.askDefault.installed =
      (s.askedAs Modifier.defaultName Registry.defaultCall).flatMap fun a => a.1.installs a.2 := by
    rw [askDefault, Run.installed_bind, installed_ask]
    exact List.append_nil _
  induction clauses generalizing index with
  | nil => exact hdefault
  | cons first rest ih =>
    cases first with
    | error fault => exact hdefault
    | ok clause =>
      have hask : (s.ask clause.modifier (s.callOf reference clause)).result =
          s.registry.apply clause.modifier (s.callOf reference clause) := rfl
      have hsilent (condition : Bool) (w : Warning) : (Run.warnIf condition w).installed = [] := rfl
      rw [chooseFrom, Run.installed_bind, Run.installed_bind, hsilent, List.nil_append,
        installed_ask, hask, asked, List.flatMap_append]
      congr 1
      cases s.registry.apply clause.modifier (s.callOf reference clause) with
      | some output => exact installed_substitute s output
      | none => exact ih (index + 1)

/-- A block installs what the modifiers that it asks install. -/
theorem installed_expandBlock (content : String) :
    (s.expandBlock content).installed =
      (s.askedByBlock content).flatMap fun a => a.1.installs a.2 := by
  unfold askedByBlock
  cases hkind : BlockKind.ofContent content with
  | error reason =>
    rw [s.expandBlock_of_error hkind]
    rfl
  | ok kind =>
    cases kind with
    | parameter name =>
      rw [s.expandBlock_of_parameter hkind, Run.installed_map, installed_showParameter]
      rfl
    | choice reference logic =>
      rw [s.expandBlock_of_choice hkind, Run.installed_map, choose, installed_chooseFrom]

/-- Segments install what the modifiers of the blocks install that are reached. -/
theorem installed_expandSegments (segments : List Segment) :
    (s.expandSegments segments).installed =
      ((Template.reached segments).flatMap fun b => s.askedByBlock b.content).flatMap
        fun a => a.1.installs a.2 := by
  induction segments with
  | nil => rfl
  | cons segment rest ih =>
    rw [expandSegments_cons, Run.installed_bind]
    cases segment with
    | literal text =>
      have hsegment : s.expandSegment (.literal text) = pure (.ok text) := rfl
      rw [Template.reached_literal, hsegment]
      simp only [Run.result_pure, Run.installed_pure, Run.installed_bind, ih]
      cases (s.expandSegments rest).result <;> simp
    | block b =>
      have hsegment : s.expandSegment (.block b) = s.expandBlock b.content := rfl
      rw [hsegment, installed_expandBlock]
      cases hkind : BlockKind.ofContent b.content with
      | error reason =>
        have hreached := Template.reached_block_of_fault (Template.faultAt?_of_error hkind) rest
        rw [hreached, s.expandBlock_of_error hkind]
        unfold askedByBlock
        rw [hkind]
        rfl
      | ok kind =>
        obtain ⟨text, htext⟩ := s.exists_result_expandBlock hkind
        have hreached := Template.reached_block_of_no_fault (Template.faultAt?_of_ok hkind) rest
        rw [htext, hreached, List.flatMap_cons, List.flatMap_append]
        simp only [Run.installed_bind, ih]
        cases (s.expandSegments rest).result <;> simp

/-- What a run installs are the installations of the modifiers that the template asks, in the order
in which they are asked. -/
theorem installed_expandTemplate (t : Template) :
    (s.expandTemplate t).installed =
      (s.askedByTemplate t).flatMap fun a => a.1.installs a.2 :=
  installed_expandSegments s t.segments

end Phrasebook.Setting
