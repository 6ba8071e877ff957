import Phrasebook.Lint
import Phrasebook.Proofs.Expansion.Fault
import Phrasebook.Proofs.Template.Canonical

/-!
# Lint and expansion agree on what stops an expansion

Lint and expansion walk over the segments of a template apart from each other: expansion stops at
the first malformed block, lint goes on and reports every one. Both meet in `firstFault?`, which
looks at the segments alone: the first report of a malformed block is that block
(`find?_malformedBlock_ofSegments`), and expansion fails with it. So whether an expansion falls back
depends neither on the parameters nor on the registry (`tryExpand_fails_iff_lint`).
-/

/-! ## Where findings come from

The findings in a template are those in its literals and those in its blocks. A literal gives only
openings that are never closed; a malformed block gives one finding, and a choice those of its
clauses, each under the index of its clause. Every block contributes all it has
(`mem_ofSegments_of_mem_ofBlock`), whatever stands before it.
-/

namespace Phrasebook

/-- Whether a problem is a malformed block. -/
def Problem.isMalformedBlock : Problem → Bool
  | .malformedBlock _ => true
  | _ => false

namespace Lint

variable (known : List String)

/-! ### Literals -/

/-- All that is found in a literal is an opening without an end. -/
theorem problem_of_mem_ofLiteral {start : Nat} {cs : List Char} {f : Finding}
    (h : f ∈ ofLiteral start cs) : f.problem = .unterminated := by
  induction cs generalizing start with
  | nil => cases h
  | cons c rest ih =>
    rw [ofLiteral] at h
    split at h
    · rcases List.mem_cons.mp h with rfl | h
      · rfl
      · exact ih h
    · exact ih h

/-! ### Clauses -/

/-- What a clause gives is about fields or about a modifier. -/
theorem isMalformedBlock_of_mem_ofClause {index : Nat} {d : Clause.Draft} {p : Problem}
    (h : p ∈ ofClause known index d) : p.isMalformedBlock = false := by
  unfold ofClause ofModifier at h
  rcases List.mem_append.mp h with h | h
  · split at h
    · cases h
    · rw [List.mem_singleton.mp h]
      rfl
  · split at h
    · cases h
    · split at h
      · cases h
      · rw [List.mem_singleton.mp h]
        rfl

/-- No problem of a clause is a malformed block. -/
theorem isMalformedBlock_of_mem_ofClauses {index : Nat} {drafts : List Clause.Draft} {p : Problem}
    (h : p ∈ ofClauses known index drafts) : p.isMalformedBlock = false := by
  induction drafts generalizing index with
  | nil => cases h
  | cons d rest ih =>
    rw [ofClauses, List.mem_append] at h
    rcases h with h | h
    · exact isMalformedBlock_of_mem_ofClause known h
    · exact ih h

/-- The problems of a clause are counted from the index of the first one. -/
theorem mem_ofClauses_of_getElem? {index k : Nat} {drafts : List Clause.Draft} {d : Clause.Draft}
    {p : Problem} (hd : drafts[k]? = some d) (hp : p ∈ ofClause known (index + k) d) :
    p ∈ ofClauses known index drafts := by
  induction drafts generalizing index k with
  | nil => cases hd
  | cons first rest ih =>
    rw [ofClauses, List.mem_append]
    cases k with
    | zero =>
      obtain rfl : first = d := by simpa using hd
      exact Or.inl hp
    | succ k =>
      refine Or.inr (ih (by simpa using hd) ?_)
      rw [show index + 1 + k = index + (k + 1) by omega]
      exact hp

/-! ### Blocks and segments -/

/-- A malformed block has one problem, its fault. -/
theorem ofBlock_of_error {content : String} {reason : BlockFault}
    (h : BlockKind.ofContent content = .error reason) :
    ofBlock known content = [.malformedBlock reason] := by
  unfold ofBlock
  rw [h]

/-- The problems of a choice are those of its clauses. -/
theorem ofBlock_of_choice {content reference logic : String}
    (h : BlockKind.ofContent content = .ok (.choice reference logic)) :
    ofBlock known content = ofClauses known 0 (Clause.drafts logic) := by
  unfold ofBlock
  rw [h]

/-- A block of some kind has no problem that is a malformed block. -/
theorem isMalformedBlock_of_mem_ofBlock {content : String} {kind : BlockKind} {p : Problem}
    (h : BlockKind.ofContent content = .ok kind) (hp : p ∈ ofBlock known content) :
    p.isMalformedBlock = false := by
  cases kind with
  | parameter name =>
    unfold ofBlock at hp
    rw [h] at hp
    cases hp
  | choice reference logic =>
    rw [ofBlock_of_choice known h] at hp
    exact isMalformedBlock_of_mem_ofClauses known hp

/-- A block among the segments gives all its problems, at its span. -/
theorem mem_ofSegments_of_mem_ofBlock {start : Nat} {segments : List Segment} {b : Block}
    {p : Problem} (hb : .block b ∈ segments) (hp : p ∈ ofBlock known b.content) :
    ⟨b.span, p⟩ ∈ ofSegments known start segments := by
  induction segments generalizing start with
  | nil => cases hb
  | cons segment rest ih =>
    rcases List.mem_cons.mp hb with rfl | hrest
    · rw [ofSegments, List.mem_append]
      exact Or.inl (List.mem_map_of_mem hp)
    · cases segment with
      | literal text =>
        rw [ofSegments, List.mem_append]
        exact Or.inr (ih hrest)
      | block b' =>
        rw [ofSegments, List.mem_append]
        exact Or.inr (ih hrest)

end Lint

/-! ## The first malformed block -/

open Template (firstFault? faultAt?)
open Text (Span)

namespace Lint

/-- The first malformed block that lint reports is the one that stops an expansion. -/
theorem find?_malformedBlock_ofSegments (known : List String) (start : Nat)
    (segments : List Segment) :
    (ofSegments known start segments).find? (·.problem.isMalformedBlock) =
      (firstFault? segments).map fun fault => ⟨fault.1.span, .malformedBlock fault.2⟩ := by
  induction segments generalizing start with
  | nil => rfl
  | cons segment rest ih =>
    rw [firstFault?, List.findSome?_cons]
    cases segment with
    | literal text =>
      have hnone : (ofLiteral start text.toList).find? (·.problem.isMalformedBlock) = none := by
        rw [List.find?_eq_none]
        intro f hf
        rw [problem_of_mem_ofLiteral hf]
        simp [Problem.isMalformedBlock]
      rw [ofSegments, List.find?_append, hnone, Option.none_or]
      exact ih _
    | block b =>
      rw [ofSegments, List.find?_append]
      cases hkind : BlockKind.ofContent b.content with
      | error reason =>
        rw [ofBlock_of_error known hkind, Template.faultAt?_of_error hkind]
        rfl
      | ok kind =>
        have hnone : ((ofBlock known b.content).map (Finding.mk b.span)).find?
            (·.problem.isMalformedBlock) = none := by
          rw [List.find?_eq_none]
          intro f hf
          obtain ⟨p, hp, rfl⟩ := List.mem_map.mp hf
          simp [isMalformedBlock_of_mem_ofBlock known hkind hp]
        rw [hnone, Option.none_or, Template.faultAt?_of_ok hkind]
        exact ih _

end Lint

/-- The block that a template was written with, as messages show it. -/
theorem render_block_eq_inBraces (b : Block) : (Segment.block b).render = inBraces b.content := by
  apply String.toList_inj.mp
  rw [Template.toList_render_block]
  simp [inBraces, Template.enclose]

namespace Registry

/-- An expansion fails with the fault and the content of the first malformed block. -/
theorem tryExpand_eq_error_iff {r : Registry} {text : String} {params : Params}
    {e : ExpansionError} :
    r.tryExpand text params = .error e ↔
      ∃ b, firstFault? (Template.parse text).segments = some (b, e.reason) ∧ b.content = e.block :=
  Setting.result_expandSegments_eq_error_iff ⟨r, params⟩

/-- An expansion with a template and parameters falls back just when the template fails. -/
theorem expand_eq_of_tryExpand (r : Registry) (text : String) (alt : Option String)
    (params : Params) :
    r.expand (some text) alt (some params) =
      match r.tryExpand text params with
      | .ok out => some out
      | .error _ => alt := by
  unfold expand runExpand tryExpand
  rw [Run.result_bind]
  cases ((Setting.mk r params).expandText text).result with
  | ok out => rfl
  | error e => rfl

/-- A malformed block is found exactly if some block of the text has a fault. -/
theorem exists_malformedBlock_iff {r : Registry} {text : String} :
    (∃ f ∈ r.lint text, ∃ reason, f.problem = .malformedBlock reason) ↔
      ∃ b reason, firstFault? (Template.parse text).segments = some (b, reason) := by
  have hfind := Lint.find?_malformedBlock_ofSegments r.names 0 (Template.parse text).segments
  constructor
  · rintro ⟨f, hf, reason, hproblem⟩
    cases hfault : firstFault? (Template.parse text).segments with
    | some fault => exact ⟨fault.1, fault.2, rfl⟩
    | none =>
      rw [hfault] at hfind
      have hno := List.find?_eq_none.mp hfind f hf
      rw [hproblem] at hno
      exact absurd rfl hno
  · rintro ⟨b, reason, hfault⟩
    rw [hfault] at hfind
    exact ⟨_, List.mem_of_find?_eq_some hfind, reason, rfl⟩

/-- An expansion stops at a malformed block exactly when lint reports one, whatever the parameters
and the two registries; the first report is about the block that the error names, and its span cuts
that block out of the text. So the text alone decides whether an expansion falls back. -/
theorem tryExpand_fails_iff_lint (text : String) (params : Params) (r r' : Registry) :
    ((∃ e, r.tryExpand text params = .error e) ↔
      ∃ f ∈ r'.lint text, ∃ reason, f.problem = .malformedBlock reason) ∧
    (∀ e, r.tryExpand text params = .error e →
      ∃ span, span.Cuts text (inBraces e.block) ∧
        (r'.lint text).find? (·.problem.isMalformedBlock) =
          some ⟨span, .malformedBlock e.reason⟩) ∧
    ((∀ alt, r.expand (some text) alt (some params) = alt) ↔
      ∃ f ∈ r'.lint text, ∃ reason, f.problem = .malformedBlock reason) := by
  have hfails : (∃ e, r.tryExpand text params = .error e) ↔
      ∃ f ∈ r'.lint text, ∃ reason, f.problem = .malformedBlock reason := by
    rw [exists_malformedBlock_iff]
    constructor
    · rintro ⟨e, he⟩
      obtain ⟨b, hfault, -⟩ := tryExpand_eq_error_iff.mp he
      exact ⟨b, e.reason, hfault⟩
    · rintro ⟨b, reason, hfault⟩
      exact ⟨⟨b.content, reason⟩, tryExpand_eq_error_iff.mpr ⟨b, hfault, rfl⟩⟩
  refine ⟨hfails, fun e he => ?_, ?_⟩
  · obtain ⟨b, hfault, hblock⟩ := tryExpand_eq_error_iff.mp he
    refine ⟨b.span, ?_, ?_⟩
    · rw [← hblock, ← render_block_eq_inBraces]
      exact Template.cuts_of_mem_parse (Template.mem_of_firstFault? hfault)
    · have hfind := Lint.find?_malformedBlock_ofSegments r'.names 0 (Template.parse text).segments
      rw [hfault] at hfind
      exact hfind
  · rw [← hfails]
    simp only [expand_eq_of_tryExpand]
    cases r.tryExpand text params with
    | ok out => simpa using ⟨none, by simp⟩
    | error e => simp

/-- The agreement at a text with a good block, an opening that is never closed and two malformed
blocks, of which the first lies behind a character of two bytes. -/
theorem tryExpand_fails_iff_lint_two_malformed :
    Registry.builtin.tryExpand "@\x7bvar=n\x7d é@\x7bref=n\x7d@\x7b\x7d\n@\x7b" ∅ =
      .error ⟨"ref=n", .missingLogic⟩ ∧
    ∃ span : Span, span.Cuts "@\x7bvar=n\x7d é@\x7bref=n\x7d@\x7b\x7d\n@\x7b" "@\x7bref=n\x7d" ∧
      (Registry.empty.lint "@\x7bvar=n\x7d é@\x7bref=n\x7d@\x7b\x7d\n@\x7b").find?
        (·.problem.isMalformedBlock) = some ⟨span, .malformedBlock .missingLogic⟩ := by
  have herror : Registry.builtin.tryExpand
      "@\x7bvar=n\x7d é@\x7bref=n\x7d@\x7b\x7d\n@\x7b" ∅ = .error ⟨"ref=n", .missingLogic⟩ := by
    decide +kernel
  exact ⟨herror, (tryExpand_fails_iff_lint _ ∅ Registry.builtin Registry.empty).2.1 _ herror⟩

end Registry

end Phrasebook
