import Phrasebook.Proofs.Expansion.Fault
import Phrasebook.Shared

/-!
# What an expansion notices

Where the warnings of an expansion come from. A choice walks over its clauses until one decides; all
it can notice on the way is collected in `Noticed`: a clause without some of its fields, a clause
whose modifier is not registered, that no clause matched, or an unset parameter in the output. A
block notices what its choice does (`noticed_of_mem_expandBlock`), an expansion exactly what the
blocks do that it comes to (`mem_warnings_expandSegments_iff`), and a context keeps all of it
(`Context.mem_keepAll`).
-/

namespace Phrasebook

namespace Context

/-- The warnings kept after an offer are those kept before and the one offered. -/
theorem mem_keep {kept : List Warning} {offered w : Warning} :
    w ∈ keep kept offered ↔ w ∈ kept ∨ w = offered := by
  unfold keep
  split
  · next hmem =>
    constructor
    · exact Or.inl
    · rintro (h | rfl)
      · exact h
      · exact hmem
  · simp

/-- A context loses no warning, and keeps none that was not offered. -/
theorem mem_keepAll {kept offered : List Warning} {w : Warning} :
    w ∈ keepAll kept offered ↔ w ∈ kept ∨ w ∈ offered := by
  induction offered generalizing kept with
  | nil => simp [keepAll]
  | cons first rest ih =>
    rw [show keepAll kept (first :: rest) = keepAll (keep kept first) rest from rfl, ih, mem_keep,
      List.mem_cons, or_assoc]

end Context

namespace Setting

variable (s : Setting)

/-! ### Parameters and output text -/

/-- Showing a parameter warns if it is not set. -/
theorem warnings_showParameter (name : String) :
    (s.showParameter name).warnings =
      if (s.params.get? name).isSome then [] else [.unresolvedParameter name] := by
  unfold showParameter
  cases s.params.get? name with
  | some value => rfl
  | none => rfl

/-- The warnings of tokens come in the order of the tokens. -/
theorem showTokens_cons (token : Token) (rest : List Token) :
    (s.showTokens (token :: rest)).warnings =
      (s.showToken token).warnings ++ (s.showTokens rest).warnings := by
  simp [showTokens]

/-- A parameter that is shown is noticed if it is not set. -/
theorem eq_of_mem_showParameter {name : String} {w : Warning}
    (h : w ∈ (s.showParameter name).warnings) : w = .unresolvedParameter name := by
  rw [warnings_showParameter] at h
  split at h
  · cases h
  · exact List.mem_singleton.mp h

/-- All that output text gives notice of is unset parameters. -/
theorem exists_of_mem_substitute {text : String} {w : Warning}
    (h : w ∈ (s.substitute text).warnings) : ∃ name, w = .unresolvedParameter name := by
  unfold substitute at h
  generalize Token.ofString text = tokens at h
  induction tokens with
  | nil => exact absurd h List.not_mem_nil
  | cons token rest ih =>
    rw [showTokens_cons, List.mem_append] at h
    rcases h with h | h
    · cases token with
      | literal text => cases h
      | parameter name => exact ⟨name, eq_of_mem_showParameter s h⟩
    · exact ih h

/-! ### Choices -/

/-- What a choice among clauses can notice, if the first of them has the given index. -/
inductive Noticed (registry : Registry) (block : String) (index : Nat)
    (clauses : List (Except ClauseFault Clause)) : Warning → Prop
  | malformedClause (k : Nat) (fault : ClauseFault) (h : clauses[k]? = some (.error fault)) :
      Noticed registry block index clauses (.malformedClause block (index + k) fault)
  | unknownModifier (k : Nat) (clause : Clause) (h : clauses[k]? = some (.ok clause))
      (hunknown : registry.has clause.modifier = false) :
      Noticed registry block index clauses (.unknownModifier block clause.modifier)
  | noClauseMatched : Noticed registry block index clauses (.noClauseMatched block)
  | unresolvedParameter (name : String) :
      Noticed registry block index clauses (.unresolvedParameter name)

/-- What is noticed among later clauses is noticed among all. -/
theorem Noticed.cons {registry : Registry} {block : String} {index : Nat}
    {clauses : List (Except ClauseFault Clause)} {w : Warning}
    (h : Noticed registry block (index + 1) clauses w) (first : Except ClauseFault Clause) :
    Noticed registry block index (first :: clauses) w := by
  cases h with
  | malformedClause k fault h =>
    rw [show index + 1 + k = index + (k + 1) by omega]
    exact .malformedClause (k + 1) fault (by simpa using h)
  | unknownModifier k clause h hunknown =>
    exact .unknownModifier (k + 1) clause (by simpa using h) hunknown
  | noClauseMatched => exact .noClauseMatched
  | unresolvedParameter name => exact .unresolvedParameter name

/-- A choice with no clause left warns that none matched. -/
theorem warnings_chooseFrom_nil (block : String) (reference : Option Value) (index : Nat) :
    (s.chooseFrom block reference index []).warnings = [.noClauseMatched block] := rfl

/-- A choice that comes to an incomplete clause warns of it and ends. -/
theorem warnings_chooseFrom_error (block : String) (reference : Option Value) (index : Nat)
    (fault : ClauseFault) (rest : List (Except ClauseFault Clause)) :
    (s.chooseFrom block reference index (.error fault :: rest)).warnings =
      [.malformedClause block index fault] := rfl

/-- The warnings of a choice whose first clause is complete: one if its modifier is not registered,
and then those of the output if it accepts, or those of the other clauses. -/
theorem warnings_chooseFrom_ok (block : String) (reference : Option Value) (index : Nat)
    (clause : Clause) (rest : List (Except ClauseFault Clause)) :
    (s.chooseFrom block reference index (.ok clause :: rest)).warnings =
      (if s.registry.has clause.modifier then [] else
        [.unknownModifier block clause.modifier]) ++
      match s.registry.apply clause.modifier (s.callOf reference clause) with
      | some output => (s.substitute output).warnings
      | none => (s.chooseFrom block reference (index + 1) rest).warnings := by
  have hask : (s.ask clause.modifier (s.callOf reference clause)).result =
      s.registry.apply clause.modifier (s.callOf reference clause) := rfl
  have hsilent : (s.ask clause.modifier (s.callOf reference clause)).warnings = [] := rfl
  have hwarn (condition : Bool) (w : Warning) :
      (Run.warnIf condition w).warnings = if condition then [w] else [] := rfl
  rw [chooseFrom, Run.warnings_bind, Run.warnings_bind, hask, hsilent, hwarn, List.nil_append]
  congr 1
  · cases s.registry.has clause.modifier <;> rfl
  · cases s.registry.apply clause.modifier (s.callOf reference clause) <;> rfl

/-- A choice notices nothing else. -/
theorem noticed_of_mem_chooseFrom {block : String} {reference : Option Value} {index : Nat}
    {clauses : List (Except ClauseFault Clause)} {w : Warning}
    (h : w ∈ (s.chooseFrom block reference index clauses).warnings) :
    Noticed s.registry block index clauses w := by
  induction clauses generalizing index with
  | nil =>
    rw [warnings_chooseFrom_nil, List.mem_singleton] at h
    rw [h]
    exact .noClauseMatched
  | cons first rest ih =>
    cases first with
    | error fault =>
      rw [warnings_chooseFrom_error, List.mem_singleton] at h
      rw [h]
      exact .malformedClause 0 fault rfl
    | ok clause =>
      rw [warnings_chooseFrom_ok, List.mem_append] at h
      rcases h with h | h
      · cases hhas : s.registry.has clause.modifier with
        | true => simp [hhas] at h
        | false =>
          simp only [hhas, Bool.false_eq_true, if_false, List.mem_singleton] at h
          rw [h]
          exact .unknownModifier 0 clause rfl hhas
      · split at h
        · obtain ⟨name, rfl⟩ := exists_of_mem_substitute s h
          exact .unresolvedParameter name
        · exact (ih h).cons _

/-! ### Blocks and segments -/

/-- A block notices an unset parameter, or what its choice notices. -/
theorem noticed_of_mem_expandBlock {content : String} {w : Warning}
    (h : w ∈ (s.expandBlock content).warnings) :
    (∃ name, w = .unresolvedParameter name) ∨
      ∃ reference logic, BlockKind.ofContent content = .ok (.choice reference logic) ∧
        Noticed s.registry content 0 (Clause.resolveAll s.params logic) w := by
  cases hkind : BlockKind.ofContent content with
  | error reason =>
    rw [expandBlock_of_error s hkind] at h
    exact absurd h List.not_mem_nil
  | ok kind =>
    cases kind with
    | parameter name =>
      rw [expandBlock_of_parameter s hkind, Run.warnings_map] at h
      exact Or.inl ⟨name, eq_of_mem_showParameter s h⟩
    | choice reference logic =>
      rw [expandBlock_of_choice s hkind, Run.warnings_map] at h
      exact Or.inr ⟨reference, logic, rfl, noticed_of_mem_chooseFrom s h⟩

/-- The warnings of an expansion are those of the blocks that it comes to, also where it fails. -/
theorem mem_warnings_expandSegments_iff {segments : List Segment} {w : Warning} :
    w ∈ (s.expandSegments segments).warnings ↔
      ∃ b ∈ Template.reached segments, w ∈ (s.expandBlock b.content).warnings := by
  induction segments with
  | nil =>
    constructor
    · exact fun h => absurd h List.not_mem_nil
    · rintro ⟨b, hb, -⟩
      exact absurd hb List.not_mem_nil
  | cons segment rest ih =>
    cases hfault : Template.faultAt? segment with
    | some fault =>
      -- a malformed block is silent, and nothing after it is expanded
      obtain ⟨rfl, -⟩ := Template.eq_block_of_faultAt? hfault
      have hexpand := expandSegment_of_fault s hfault
      rw [(expandSegments_cons_of_error s (by rw [hexpand]; rfl) rest).2, hexpand,
        Template.reached_block_of_fault hfault]
      simp
    | none =>
      obtain ⟨first, hfirst⟩ := exists_result_expandSegment s hfault
      rw [(expandSegments_cons_of_ok s hfirst rest).2, List.mem_append, ih]
      cases segment with
      | literal text =>
        rw [Template.reached_literal]
        simp [expandSegment]
      | block b =>
        rw [Template.reached_block_of_no_fault hfault]
        simp [expandSegment]

/-- Every warning of an expansion comes from one of its blocks. -/
theorem exists_block_of_mem_expandSegments {segments : List Segment} {w : Warning}
    (h : w ∈ (s.expandSegments segments).warnings) :
    ∃ b, .block b ∈ segments ∧ w ∈ (s.expandBlock b.content).warnings := by
  obtain ⟨b, hb, hw⟩ := s.mem_warnings_expandSegments_iff.mp h
  exact ⟨b, Template.mem_of_mem_reached hb, hw⟩

end Setting

namespace Template

/-- The result of an evaluation is that of the expansion. -/
theorem evaluate_fst (t : Template) (registry : Registry) (params : Params) :
    (t.evaluate registry params).1 = ((Setting.mk registry params).expandTemplate t).result := rfl

/-- A fresh context holds the warnings of the expansion. -/
theorem mem_evaluate_snd {t : Template} {registry : Registry} {params : Params} {w : Warning} :
    w ∈ (t.evaluate registry params).2 ↔
      w ∈ ((Setting.mk registry params).expandTemplate t).warnings := by
  rw [show (t.evaluate registry params).2 =
    Context.keepAll [] ((Setting.mk registry params).expandTemplate t).warnings from rfl,
    Context.mem_keepAll]
  simp

end Template

end Phrasebook
