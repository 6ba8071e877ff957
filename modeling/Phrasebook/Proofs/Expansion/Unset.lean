import Mathlib.Data.List.TakeWhile
import Phrasebook.Proofs.Expansion.Choice
import Phrasebook.Proofs.Expansion.Names

/-!
# Which unset parameters are noticed

The sentinel stands in for a parameter that is not set in three places: as the text of a parameter
block, as the text of a mention in the chosen output of a choice, and as the operand that a clause
compares with. The first two are `Shows`, the third is `Compares`. An expansion gives notice of
exactly the first two, in the blocks that it comes to (`unresolvedParameter_noticed_iff`). An operand
is resolved before the choice begins, where nothing can be noticed; so a parameter that is only
compared with can decide what is put out and go unnoticed (`compares_unset_unnoticed`).
-/

namespace Phrasebook

namespace Setting

variable (s : Setting)

/-! ### The uses of a parameter -/

/-- A block puts out the text of a parameter, as a parameter block or by a mention in the chosen
output. -/
inductive Shows (content name : String) : Prop
  | block (hkind : BlockKind.ofContent content = .ok (.parameter name))
  | token {reference logic output : String}
      (hkind : BlockKind.ofContent content = .ok (.choice reference logic))
      (hchosen : s.chosen? (s.params.get? reference) (Clause.resolveAll s.params logic) =
        some output)
      (hmention : name ∈ Token.names (Token.ofString output))

/-- A choice comes to the clause of the given index: all clauses before it are complete and
decline. -/
def Tries (reference : Option Value) (clauses : List (Except ClauseFault Clause)) (k : Nat) :
    Prop :=
  ∀ j < k, ∃ clause, clauses[j]? = some (.ok clause) ∧
    s.registry.apply clause.modifier (s.callOf reference clause) = none

/-- A block compares with the value of a parameter: it comes to a complete clause whose operand is a
mention of it. -/
inductive Compares (content name : String) : Prop
  | operand {reference logic : String} {k : Nat} {d : Clause.Draft}
      (hkind : BlockKind.ofContent content = .ok (.choice reference logic))
      (hclause : (Clause.drafts logic)[k]? = some d)
      (hcomplete : d.missing = [])
      (hoperand : d.operand = some (.parameter name))
      (htried : s.Tries (s.params.get? reference) (Clause.resolveAll s.params logic) k)

/-! ### What is noticed -/

/-- Showing a parameter notices it if it is unset, and no other. -/
theorem mem_warnings_showParameter_iff {name other : String} :
    .unresolvedParameter name ∈ (s.showParameter other).warnings ↔
      s.params.get? name = none ∧ name = other := by
  rw [warnings_showParameter]
  constructor
  · intro h
    split at h
    · cases h
    · next hunset =>
      obtain rfl : name = other := by simpa using h
      exact ⟨by simpa using hunset, rfl⟩
  · rintro ⟨hunset, rfl⟩
    simp [hunset]

/-- Output text gives notice of the unset parameters that it mentions. -/
theorem mem_warnings_substitute_iff {text name : String} :
    .unresolvedParameter name ∈ (s.substitute text).warnings ↔
      s.params.get? name = none ∧ name ∈ Token.names (Token.ofString text) := by
  unfold substitute
  induction Token.ofString text with
  | nil => simp [showTokens, Token.names]
  | cons token rest ih =>
    rw [showTokens_cons, List.mem_append, ih]
    cases token with
    | literal text => simp [showToken, Token.names]
    | parameter other =>
      rw [showToken, mem_warnings_showParameter_iff]
      have hnames : Token.names (.parameter other :: rest) = other :: Token.names rest := rfl
      rw [hnames, List.mem_cons, and_or_left]

/-- A block gives notice of the unset parameters that it shows. -/
theorem mem_warnings_expandBlock_iff {content name : String} :
    .unresolvedParameter name ∈ (s.expandBlock content).warnings ↔
      s.params.get? name = none ∧ s.Shows content name := by
  cases hkind : BlockKind.ofContent content with
  | error reason =>
    rw [expandBlock_of_error s hkind]
    constructor
    · exact fun h => absurd h List.not_mem_nil
    · rintro ⟨-, hshows⟩
      cases hshows with
      | block hother => rw [hkind] at hother; cases hother
      | token hother => rw [hkind] at hother; cases hother
  | ok kind =>
    cases kind with
    | parameter other =>
      rw [expandBlock_of_parameter s hkind, Run.warnings_map, mem_warnings_showParameter_iff]
      refine and_congr_right fun _ => ⟨fun hname => .block (hname ▸ hkind), fun hshows => ?_⟩
      cases hshows with
      | block hother => rw [hkind] at hother; cases hother; rfl
      | token hother => rw [hkind] at hother; cases hother
    | choice reference logic =>
      rw [expandBlock_of_choice s hkind, Run.warnings_map, choose,
        mem_warnings_chooseFrom_unresolved]
      constructor
      · rintro ⟨output, hchosen, hw⟩
        obtain ⟨hunset, hmention⟩ := s.mem_warnings_substitute_iff.mp hw
        exact ⟨hunset, .token hkind hchosen hmention⟩
      · rintro ⟨hunset, hshows⟩
        cases hshows with
        | block hother => rw [hkind] at hother; cases hother
        | token hother hchosen hmention =>
          rw [hkind] at hother
          cases hother
          exact ⟨_, hchosen, s.mem_warnings_substitute_iff.mpr ⟨hunset, hmention⟩⟩

end Setting

/-- An evaluation gives notice of a parameter exactly if it is not set and one of the blocks before
the first malformed one shows it: as a parameter block, or by a mention in the output of the clause
that is chosen. That a clause compares with it is not enough. -/
theorem unresolvedParameter_noticed_iff (text name : String) (registry : Registry)
    (params : Params) :
    .unresolvedParameter name ∈ ((Template.parse text).evaluate registry params).2 ↔
      params.get? name = none ∧
        ∃ b ∈ Template.reached (Template.parse text).segments,
          (Setting.mk registry params).Shows b.content name := by
  rw [Template.mem_evaluate_snd, Setting.expandTemplate, Setting.mem_warnings_expandSegments_iff]
  constructor
  · rintro ⟨b, hb, hw⟩
    obtain ⟨hunset, hshows⟩ := (Setting.mem_warnings_expandBlock_iff _).mp hw
    exact ⟨hunset, b, hb, hshows⟩
  · rintro ⟨hunset, b, hb, hshows⟩
    exact ⟨b, hb, (Setting.mem_warnings_expandBlock_iff _).mpr ⟨hunset, hshows⟩⟩

/-- A clause that compares with an unset parameter: the reference has the text of the sentinel, the
clause accepts for that reason alone, its text is put out, and nothing is noticed. -/
theorem compares_unset_unnoticed :
    (Keyed.ofList [("n", Value.string "-")]).get? "limit" = none ∧
    (∃ b ∈ Template.reached
        (Template.parse "@\x7bref=n||modi=mod=equal:val=$limit:text=same\x7d").segments,
      (Setting.mk .builtin (Keyed.ofList [("n", .string "-")])).Compares b.content "limit") ∧
    (Template.parse "@\x7bref=n||modi=mod=equal:val=$limit:text=same\x7d").evaluate .builtin
      (Keyed.ofList [("n", .string "-")]) = (.ok "same", []) := by
  refine ⟨?_, ⟨⟨"ref=n||modi=mod=equal:val=$limit:text=same", ⟨0, 45⟩⟩, ?_, ?_⟩, ?_⟩
  · simp [Keyed.ofList, Keyed.get?_insert]
  · decide +kernel
  · have hkind : BlockKind.ofContent "ref=n||modi=mod=equal:val=$limit:text=same" =
        .ok (.choice "n" "modi=mod=equal:val=$limit:text=same") := by
      decide +kernel
    have hclause : (Clause.drafts "modi=mod=equal:val=$limit:text=same")[0]? =
        some ⟨some "equal", some (.parameter "limit"), some "same"⟩ := by
      decide +kernel
    exact .operand hkind hclause rfl rfl fun j hj => absurd hj (Nat.not_lt_zero j)
  · decide +kernel

end Phrasebook
