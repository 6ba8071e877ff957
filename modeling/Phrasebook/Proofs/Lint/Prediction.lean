import Phrasebook.Proofs.Expansion.Warnings
import Phrasebook.Proofs.Lint.Agreement

/-!
# Lint predicts what an expansion notices

An expansion tries the clauses of a choice until one decides, and which one that is depends on the
parameters; lint looks at all of them. So whatever an expansion notices about the structure of a
template, a clause without some of its fields or a modifier that is not registered, lint has
reported under the same index and at the same block (`warnings_predicted_by_lint`). The converse
fails: a clause that is never reached is reported and never noticed.
-/

namespace Phrasebook

open Text (Span)

namespace Lint

/-! ### One clause -/

/-- A clause that does not resolve is reported with the fields it lacks. -/
theorem mem_ofClause_of_resolve_eq_error {known : List String} {params : Params}
    {d : Clause.Draft} {fault : ClauseFault} (h : d.resolve params = .error fault) (index : Nat) :
    .malformedClause index fault ∈ ofClause known index d := by
  obtain ⟨hmissing, rfl⟩ := Clause.Draft.of_resolve_eq_error h
  unfold ofClause
  rw [if_neg hmissing]
  exact List.mem_append_left _ (List.mem_singleton_self _)

/-- A complete clause is reported if its modifier is not registered. -/
theorem mem_ofClause_of_resolve_eq_ok {registry : Registry} {params : Params}
    {d : Clause.Draft} {c : Clause} (h : d.resolve params = .ok c)
    (hunknown : registry.has c.modifier = false) (index : Nat) :
    .unknownModifier c.modifier (Suggestion.compute c.modifier registry.names) ∈
      ofClause registry.names index d := by
  have hnotin : c.modifier ∉ registry.names := by
    rw [Registry.mem_names_iff, hunknown]
    exact Bool.false_ne_true
  unfold ofClause ofModifier
  rw [Clause.Draft.modifier_of_resolve_eq_ok h]
  simp only [if_neg hnotin]
  exact List.mem_append_right _ (List.mem_singleton_self _)

/-! ### One block -/

/-- What lint says of a warning about the structure of a block. -/
def Predicts (problems : List Problem) : Warning → Prop
  | .malformedClause _ index fault => .malformedClause index fault ∈ problems
  | .unknownModifier _ name => ∃ suggestions, .unknownModifier name suggestions ∈ problems
  | .noClauseMatched _ => True
  | .unresolvedParameter _ => True

/-- Whatever a choice notices about its clauses is among the problems of its block. -/
theorem predicts_of_noticed {registry : Registry} {params : Params}
    {content reference logic : String} {w : Warning}
    (hkind : BlockKind.ofContent content = .ok (.choice reference logic))
    (h : Setting.Noticed registry content 0 (Clause.resolveAll params logic) w) :
    Predicts (ofBlock registry.names content) w := by
  rw [ofBlock_of_choice _ hkind]
  cases h with
  | malformedClause k fault hclause =>
    obtain ⟨d, hd, hresolve⟩ : ∃ d, (Clause.drafts logic)[k]? = some d ∧
        d.resolve params = .error fault := by
      simpa [Clause.resolveAll] using hclause
    exact mem_ofClauses_of_getElem? _ hd (mem_ofClause_of_resolve_eq_error hresolve _)
  | unknownModifier k clause hclause hunknown =>
    obtain ⟨d, hd, hresolve⟩ : ∃ d, (Clause.drafts logic)[k]? = some d ∧
        d.resolve params = .ok clause := by
      simpa [Clause.resolveAll] using hclause
    exact ⟨_, mem_ofClauses_of_getElem? _ hd (mem_ofClause_of_resolve_eq_ok hresolve hunknown _)⟩
  | noClauseMatched => trivial
  | unresolvedParameter name => trivial

end Lint

/-! ### A whole template -/

/-- A warning of an evaluation comes from a block of the text that accounts for it. -/
theorem exists_block_of_mem_evaluate {text : String} {registry : Registry} {params : Params}
    {w : Warning} (h : w ∈ ((Template.parse text).evaluate registry params).2) :
    (∃ name, w = .unresolvedParameter name) ∨
      ∃ b reference logic, .block b ∈ (Template.parse text).segments ∧
        BlockKind.ofContent b.content = .ok (.choice reference logic) ∧
        Setting.Noticed registry b.content 0 (Clause.resolveAll params logic) w := by
  obtain ⟨b, hb, hw⟩ :=
    Setting.exists_block_of_mem_expandSegments _ (Template.mem_evaluate_snd.mp h)
  rcases Setting.noticed_of_mem_expandBlock _ hw with hname | ⟨reference, logic, hkind, hnoticed⟩
  · exact Or.inl hname
  · exact Or.inr ⟨b, reference, logic, hb, hkind, hnoticed⟩

/-- A problem of a block of the text is reported at a span that cuts the block out. -/
theorem exists_span_of_mem_ofBlock {text : String} {registry : Registry} {b : Block} {p : Problem}
    (hb : .block b ∈ (Template.parse text).segments)
    (hp : p ∈ Lint.ofBlock registry.names b.content) :
    ∃ span : Span, span.Cuts text (inBraces b.content) ∧ ⟨span, p⟩ ∈ registry.lint text := by
  refine ⟨b.span, ?_, Lint.mem_ofSegments_of_mem_ofBlock _ hb hp⟩
  rw [← render_block_eq_inBraces]
  exact Template.cuts_of_mem_parse hb

/-- A malformed clause that an evaluation warns of is found by linting, with a span that cuts its
block. -/
theorem exists_span_of_malformedClause {text block : String} {registry : Registry}
    {params : Params} {index : Nat} {fault : ClauseFault}
    (h : .malformedClause block index fault ∈
      ((Template.parse text).evaluate registry params).2) :
    ∃ span : Span, span.Cuts text (inBraces block) ∧
      ⟨span, .malformedClause index fault⟩ ∈ registry.lint text := by
  rcases exists_block_of_mem_evaluate h with ⟨name, hname⟩ | ⟨b, reference, logic, hb, hkind, hn⟩
  · cases hname
  · have hp := Lint.predicts_of_noticed hkind hn
    obtain rfl : block = b.content := by cases hn; rfl
    exact exists_span_of_mem_ofBlock hb hp

/-- An unknown modifier that an evaluation warns of is found by linting, with a span that cuts its
block. -/
theorem exists_span_of_unknownModifier {text block name : String} {registry : Registry}
    {params : Params}
    (h : .unknownModifier block name ∈ ((Template.parse text).evaluate registry params).2) :
    ∃ (span : Span) (suggestions : List String), span.Cuts text (inBraces block) ∧
      ⟨span, .unknownModifier name suggestions⟩ ∈ registry.lint text := by
  rcases exists_block_of_mem_evaluate h with ⟨name, hname⟩ | ⟨b, reference, logic, hb, hkind, hn⟩
  · cases hname
  · obtain ⟨suggestions, hp⟩ := Lint.predicts_of_noticed hkind hn
    obtain rfl : block = b.content := by cases hn; rfl
    obtain ⟨span, hcuts, hmem⟩ := exists_span_of_mem_ofBlock hb hp
    exact ⟨span, suggestions, hcuts, hmem⟩

/-- Whatever an evaluation notices about the structure of a template has been reported: a clause
without some of its fields under its index and with the same fields, a modifier that is not
registered under its name, both at a span that cuts the block of the warning out of the text. A
template without findings expands whatever the parameters, and gives neither warning. -/
theorem warnings_predicted_by_lint (text : String) (params : Params) (registry : Registry) :
    (∀ block index fault,
      .malformedClause block index fault ∈ ((Template.parse text).evaluate registry params).2 →
      ∃ span : Span, span.Cuts text (inBraces block) ∧
        ⟨span, .malformedClause index fault⟩ ∈ registry.lint text) ∧
    (∀ block name,
      .unknownModifier block name ∈ ((Template.parse text).evaluate registry params).2 →
      ∃ (span : Span) (suggestions : List String), span.Cuts text (inBraces block) ∧
        ⟨span, .unknownModifier name suggestions⟩ ∈ registry.lint text) ∧
    (registry.lint text = [] →
      (∃ out, ((Template.parse text).evaluate registry params).1 = .ok out) ∧
      (∀ block index fault,
        .malformedClause block index fault ∉
          ((Template.parse text).evaluate registry params).2) ∧
      (∀ block name,
        .unknownModifier block name ∉ ((Template.parse text).evaluate registry params).2)) := by
  refine ⟨fun _ _ _ => exists_span_of_malformedClause, fun _ _ => exists_span_of_unknownModifier,
    fun hclean => ⟨?_, ?_, ?_⟩⟩
  · have hno : Template.firstFault? (Template.parse text).segments = none := by
      by_contra hsome
      obtain ⟨⟨b, reason⟩, hfault⟩ := Option.ne_none_iff_exists'.mp hsome
      obtain ⟨f, hf, -⟩ := Registry.exists_malformedBlock_iff.mpr ⟨b, reason, hfault⟩
      rw [hclean] at hf
      exact List.not_mem_nil hf
    rw [Template.evaluate_fst]
    exact Setting.exists_result_expandSegments _ hno
  · intro block index fault hw
    obtain ⟨span, -, hmem⟩ := exists_span_of_malformedClause hw
    rw [hclean] at hmem
    exact List.not_mem_nil hmem
  · intro block name hw
    obtain ⟨span, suggestions, -, hmem⟩ := exists_span_of_unknownModifier hw
    rw [hclean] at hmem
    exact List.not_mem_nil hmem

/-- The prediction at a block of two clauses behind a character of two bytes, the first with an
unknown modifier and the second without an operand, and at a template that has no findings. -/
theorem warnings_predicted_by_lint_unknown_then_malformed :
    (∃ span : Span, span.Cuts "é@\x7bref=n||modi=mod=odd:val=1:text=a;mod=odd:text=b\x7d"
        (inBraces "ref=n||modi=mod=odd:val=1:text=a;mod=odd:text=b") ∧
      ⟨span, .malformedClause 1 ⟨[.value]⟩⟩ ∈
        Registry.empty.lint "é@\x7bref=n||modi=mod=odd:val=1:text=a;mod=odd:text=b\x7d") ∧
    (∃ (span : Span) (suggestions : List String),
      span.Cuts "é@\x7bref=n||modi=mod=odd:val=1:text=a;mod=odd:text=b\x7d"
        (inBraces "ref=n||modi=mod=odd:val=1:text=a;mod=odd:text=b") ∧
      ⟨span, .unknownModifier "odd" suggestions⟩ ∈
        Registry.empty.lint "é@\x7bref=n||modi=mod=odd:val=1:text=a;mod=odd:text=b\x7d") ∧
    ∃ out, ((Template.parse "é@\x7bvar=n\x7d\n@").evaluate Registry.empty ∅).1 = .ok out := by
  have hwarnings : ((Template.parse
      "é@\x7bref=n||modi=mod=odd:val=1:text=a;mod=odd:text=b\x7d").evaluate Registry.empty ∅).2 =
      [.unknownModifier "ref=n||modi=mod=odd:val=1:text=a;mod=odd:text=b" "odd",
        .malformedClause "ref=n||modi=mod=odd:val=1:text=a;mod=odd:text=b" 1 ⟨[.value]⟩] := by
    decide +kernel
  have hclean : Registry.empty.lint "é@\x7bvar=n\x7d\n@" = [] := by
    decide +kernel
  refine ⟨(warnings_predicted_by_lint _ ∅ _).1 _ 1 ⟨[.value]⟩ ?_,
    (warnings_predicted_by_lint _ ∅ _).2.1 _ "odd" ?_,
    ((warnings_predicted_by_lint _ ∅ _).2.2 hclean).1⟩
  · rw [hwarnings]
    simp
  · rw [hwarnings]
    simp

end Phrasebook
