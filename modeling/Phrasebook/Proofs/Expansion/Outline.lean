import Phrasebook.Proofs.Expansion.Mentioned

/-!
# The text of a parameter is never read again

A parameter that a template only shows, and never consults, is data: over all its values the
expansions of the template have one outline, a list of fixed texts and holes, and each expansion is
that outline with the text of the value in the holes (`expansion_has_outline`). So whatever that text
looks like, none of it is taken for a block, a mention or a separator.

The proof is a logical relation. A text that depends on the parameters is `Outlined` if it has an
outline; the texts of tokens, choices and blocks are, and putting one outlined text after another
keeps them so.
-/

namespace Phrasebook

/-- Two mappings agree on all names but one, under which the second has the given value. -/
def Keyed.IsWith {α : Type} (m : Keyed α) (key : String) (value : α) (m' : Keyed α) : Prop :=
  m'.get? key = some value ∧ ∀ name, name ≠ key → m'.get? name = m.get? name

/-- An insertion changes a mapping under its key alone. -/
theorem Keyed.isWith_insert {α : Type} (m : Keyed α) (key : String) (value : α) :
    m.IsWith key value (m.insert key value) := by
  constructor
  · rw [get?_insert, if_pos rfl]
  · intro name hname
    rw [get?_insert, if_neg hname]

/-! ### Outlines -/

/-- A piece of an outline: a text, or a hole to be filled. -/
inductive Piece where
  | fixed (text : String)
  | hole
  deriving DecidableEq, Repr

namespace Piece

/-- The text of a piece with the hole filled. -/
def fill (text : String) : Piece → String
  | fixed own => own
  | hole => text

/-- The text of an outline with all holes filled. -/
def fillAll (text : String) (pieces : List Piece) : String :=
  String.join (pieces.map (fill text))

/-- Outlines one after another are filled one after another. -/
theorem fillAll_append (text : String) (first others : List Piece) :
    fillAll text (first ++ others) = fillAll text first ++ fillAll text others := by
  simp [fillAll]

end Piece

variable (others : Params) (p : String)

/-- A text that depends on the parameters has an outline: over all values of one parameter it
differs only in holes, which the text of the value fills. -/
def Outlined (f : Params → String) : Prop :=
  ∃ pieces, ∀ params value, others.IsWith p value params →
    f params = Piece.fillAll value.display pieces

/-- A result that depends on the parameters is one error over all values of one parameter, or a text
with an outline. -/
def OutlinedResult (f : Params → Except ExpansionError String) : Prop :=
  (∃ e, ∀ params value, others.IsWith p value params → f params = .error e) ∨
    ∃ g, Outlined others p g ∧ ∀ params value, others.IsWith p value params →
      f params = .ok (g params)

namespace Outlined

variable {others p}

/-- A text that is the same over all values is an outline without holes. -/
theorem of_const {f : Params → String} (text : String)
    (h : ∀ params value, others.IsWith p value params → f params = text) : Outlined others p f := by
  refine ⟨[.fixed text], fun params value hwith => ?_⟩
  rw [h params value hwith]
  simp [Piece.fillAll, Piece.fill]

/-- A text that is the same as an outlined one over all values is outlined. -/
theorem congr {f g : Params → String} (hg : Outlined others p g)
    (h : ∀ params value, others.IsWith p value params → f params = g params) :
    Outlined others p f := by
  obtain ⟨pieces, hpieces⟩ := hg
  refine ⟨pieces, fun params value hwith => ?_⟩
  rw [h params value hwith, hpieces params value hwith]

/-- Outlined texts one after another are outlined. -/
theorem append {f g : Params → String} (hf : Outlined others p f) (hg : Outlined others p g) :
    Outlined others p fun params => f params ++ g params := by
  obtain ⟨first, hfirst⟩ := hf
  obtain ⟨rest, hrest⟩ := hg
  refine ⟨first ++ rest, fun params value hwith => ?_⟩
  simp only [hfirst params value hwith, hrest params value hwith, Piece.fillAll_append]

/-- The text of a parameter is a hole if it is the one that varies, and fixed otherwise. -/
theorem showParameter (registry : Registry) (name : String) :
    Outlined others p fun params => ((Setting.mk registry params).showParameter name).result := by
  by_cases hname : name = p
  · subst hname
    refine ⟨[.hole], fun params value hwith => ?_⟩
    simp [Setting.showParameter, hwith.1, Piece.fillAll, Piece.fill]
  · refine of_const ((Setting.mk registry others).showParameter name).result ?_
    intro params value hwith
    have hsame : (Setting.mk registry params).showParameter name =
        (Setting.mk registry others).showParameter name := by
      unfold Setting.showParameter
      rw [hwith.2 name hname]
    rw [hsame]

/-- The text of tokens has an outline: their own texts, and a hole for each mention of the parameter
that varies. -/
theorem showTokens (registry : Registry) (tokens : List Token) :
    Outlined others p fun params => ((Setting.mk registry params).showTokens tokens).result := by
  induction tokens with
  | nil => exact of_const "" fun _ _ _ => rfl
  | cons token rest ih =>
    have htoken : Outlined others p fun params =>
        ((Setting.mk registry params).showToken token).result := by
      cases token with
      | literal text => exact of_const text fun _ _ _ => rfl
      | parameter name => exact showParameter registry name
    exact htoken.append ih

/-- Which clause is chosen does not depend on a parameter that the choice does not consult, so its
output is one text with mentions. -/
theorem choose {reference logic : String}
    (h : p ∉ (BlockKind.choice reference logic).consulted) (block : String) :
    Outlined others p fun params =>
      ((Setting.mk .builtin params).choose block reference
        (Clause.resolveAll params logic)).result := by
  -- reference, operands and modifiers are all the same, so the same clause is chosen
  have hsame {params : Params} {value : Value} (hwith : others.IsWith p value params) :
      (Setting.mk .builtin params).chosen? (params.get? reference)
          (Clause.resolveAll params logic) =
        (Setting.mk .builtin others).chosen? (others.get? reference)
          (Clause.resolveAll others logic) := by
    have hagree (name : String) (hname : name ∈ (BlockKind.choice reference logic).consulted) :
        params.get? name = others.get? name :=
      hwith.2 name fun heq => h (heq ▸ hname)
    rw [hagree reference List.mem_cons_self, Clause.resolveAll_congr hagree]
    exact Setting.chosen?_builtin_params _ _ _ _
  cases hchosen : (Setting.mk .builtin others).chosen? (others.get? reference)
      (Clause.resolveAll others logic) with
  | some output =>
    refine (showTokens .builtin (Token.ofString output)).congr fun params value hwith => ?_
    rw [Setting.choose, Setting.result_chooseFrom, hsame hwith, hchosen]
    rfl
  | none =>
    refine of_const Registry.builtin.applyDefault fun params value hwith => ?_
    rw [Setting.choose, Setting.result_chooseFrom, hsame hwith, hchosen]

end Outlined

namespace OutlinedResult

variable {others p}

/-- A block is malformed whatever the parameters, or its text is outlined. -/
theorem expandBlock {content : String}
    (h : ∀ kind, BlockKind.ofContent content = .ok kind → p ∉ kind.consulted) :
    OutlinedResult others p fun params =>
      ((Setting.mk .builtin params).expandBlock content).result := by
  cases hkind : BlockKind.ofContent content with
  | error reason =>
    refine Or.inl ⟨⟨content, reason⟩, fun params value _ => ?_⟩
    simp only [Setting.expandBlock_of_error _ hkind, Run.result_pure]
  | ok kind =>
    cases kind with
    | parameter name =>
      refine Or.inr ⟨_, Outlined.showParameter .builtin name, fun params value _ => ?_⟩
      simp only [Setting.expandBlock_of_parameter _ hkind, Run.result_map]
    | choice reference logic =>
      refine Or.inr ⟨_, Outlined.choose (h _ hkind) content, fun params value _ => ?_⟩
      simp only [Setting.expandBlock_of_choice _ hkind, Run.result_map]

/-- The first error among segments is the same whatever the value; without one the texts of the
segments, one after another, are outlined. -/
theorem expandSegments {segments : List Segment}
    (h : ∀ b, .block b ∈ segments → ∀ kind, BlockKind.ofContent b.content = .ok kind →
      p ∉ kind.consulted) :
    OutlinedResult others p fun params =>
      ((Setting.mk .builtin params).expandSegments segments).result := by
  induction segments with
  | nil => exact Or.inr ⟨fun _ => "", .of_const "" fun _ _ _ => rfl, fun _ _ _ => rfl⟩
  | cons segment rest ih =>
    have hfirst : OutlinedResult others p fun params =>
        ((Setting.mk .builtin params).expandSegment segment).result := by
      cases segment with
      | literal text => exact Or.inr ⟨fun _ => text, .of_const text fun _ _ _ => rfl,
          fun _ _ _ => rfl⟩
      | block b => exact expandBlock (h b List.mem_cons_self)
    have hrest := ih fun b hb => h b (List.mem_cons_of_mem _ hb)
    simp only [Setting.result_expandSegments_cons]
    rcases hfirst with ⟨e, he⟩ | ⟨first, houtline, hfirst⟩
    · refine Or.inl ⟨e, fun params value hwith => ?_⟩
      simp only [he params value hwith, Except.bind]
    · rcases hrest with ⟨e, he⟩ | ⟨later, hlater, hrest⟩
      · refine Or.inl ⟨e, fun params value hwith => ?_⟩
        simp only [hfirst params value hwith, he params value hwith, Except.bind, Except.map]
      · refine Or.inr ⟨_, houtline.append hlater, fun params value hwith => ?_⟩
        simp only [hfirst params value hwith, hrest params value hwith, Except.bind, Except.map]

end OutlinedResult

/-- The expansions of a text over all values of a parameter that it shows and never consults: they
all fail with one error, or there is one outline, the same for all assignments that agree on the
other parameters, and each expansion is that outline with the text of the value, as it stands, in
every hole. -/
theorem expansion_has_outline (text p : String)
    (h : p ∉ (Template.parse text).consultedParameters) (others : Params) :
    (∃ e, ∀ params value, others.IsWith p value params →
      Registry.builtin.tryExpand text params = .error e) ∨
    (∃ pieces, ∀ params value, others.IsWith p value params →
      Registry.builtin.tryExpand text params = .ok (Piece.fillAll value.display pieces)) := by
  have hresult : OutlinedResult others p fun params => Registry.builtin.tryExpand text params :=
    OutlinedResult.expandSegments fun b hb kind hkind hp =>
      h (Template.consulted_subset hb hkind hp)
  rcases hresult with herror | ⟨f, ⟨pieces, hpieces⟩, hf⟩
  · exact Or.inl herror
  · refine Or.inr ⟨pieces, fun params value hwith => ?_⟩
    rw [← hpieces params value hwith]
    exact hf params value hwith

/-- The outline at a template that shows a parameter in a block and in the output of a choice: every
value fills it, also one whose text is full of markup. -/
theorem expansion_has_outline_shown_twice :
    ∃ pieces,
      (∀ value : Value,
        Registry.builtin.tryExpand
            "@\x7bvar=who\x7d: @\x7bref=n||modi=mod=equal:val=1:text=$n for $who;mod=default\x7d"
            ((Keyed.ofList [("n", .number 1)]).insert "who" value) =
          .ok (Piece.fillAll value.display pieces)) ∧
      Piece.fillAll "@\x7bvar=n\x7d$n;\n" pieces =
        "@\x7bvar=n\x7d$n;\n: 1 for @\x7bvar=n\x7d$n;\n" := by
  have hshown : "who" ∉ (Template.parse
      "@\x7bvar=who\x7d: @\x7bref=n||modi=mod=equal:val=1:text=$n for $who;mod=default\x7d"
      ).consultedParameters := by
    decide +kernel
  have hmarkup : (Registry.builtin.tryExpand
      "@\x7bvar=who\x7d: @\x7bref=n||modi=mod=equal:val=1:text=$n for $who;mod=default\x7d"
      ((Keyed.ofList [("n", .number 1)]).insert "who" (.string "@\x7bvar=n\x7d$n;\n"))).toOption =
        some "@\x7bvar=n\x7d$n;\n: 1 for @\x7bvar=n\x7d$n;\n" := by
    decide +kernel
  rcases expansion_has_outline _ "who" hshown (Keyed.ofList [("n", .number 1)]) with
    ⟨e, he⟩ | ⟨pieces, hpieces⟩
  · rw [he _ _ (Keyed.isWith_insert _ _ _)] at hmarkup
    cases hmarkup
  · refine ⟨pieces, fun value => hpieces _ value (Keyed.isWith_insert _ _ _), ?_⟩
    rw [hpieces _ _ (Keyed.isWith_insert _ _ _)] at hmarkup
    exact Option.some.inj hmarkup

end Phrasebook
