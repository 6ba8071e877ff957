import Phrasebook.Block
import Phrasebook.Clause

/-!
# The names in a template

The parameters and modifiers that a template names, collected over all its blocks and clauses,
whether an expansion comes to them or not. A parameter is named in two ways: it is *shown* where its
text may be put out, by a parameter block or by a mention in the text of a clause, and *consulted*
where its value decides, as the reference of a choice or as the operand of a clause. A parameter
named in either way is *mentioned*.
-/

namespace Phrasebook

/-- The parameters that tokens mention. -/
def Token.names (tokens : List Token) : List String :=
  tokens.filterMap fun
    | .literal _ => none
    | .parameter name => some name

namespace Clause.Draft

/-- The parameters that the text of a clause mentions. -/
def shown (d : Draft) : List String :=
  match d.text with
  | some text => Token.names (Token.ofString text)
  | none => []

/-- The parameter that a clause compares with. -/
def consulted (d : Draft) : List String :=
  match d.operand with
  | some (.parameter name) => [name]
  | _ => []

end Clause.Draft

namespace BlockKind

/-- The parameters whose texts a block may put out. -/
def shown : BlockKind → List String
  | .parameter name => [name]
  | .choice _ logic => (Clause.drafts logic).flatMap Clause.Draft.shown

/-- The parameters whose values decide what a block puts out. -/
def consulted : BlockKind → List String
  | .parameter _ => []
  | .choice reference logic => reference :: (Clause.drafts logic).flatMap Clause.Draft.consulted

/-- The parameters of a block. -/
def mentioned (kind : BlockKind) : List String :=
  kind.shown ++ kind.consulted

/-- The modifiers that the clauses of a block name. -/
def modifiers : BlockKind → List String
  | .parameter _ => []
  | .choice _ logic => (Clause.drafts logic).filterMap Clause.Draft.modifier

end BlockKind

namespace Template

/-- What the blocks of a template are, the malformed ones left out. -/
def kinds (t : Template) : List BlockKind :=
  t.blocks.filterMap fun b => (BlockKind.ofContent b.content).toOption

/-- The parameters whose values decide what the blocks of a template put out. -/
def consultedParameters (t : Template) : List String :=
  t.kinds.flatMap BlockKind.consulted

/-- The parameters of the blocks of a template. -/
def mentionedParameters (t : Template) : List String :=
  t.kinds.flatMap BlockKind.mentioned

/-- The modifiers that the clauses of a template name. -/
def mentionedModifiers (t : Template) : List String :=
  t.kinds.flatMap BlockKind.modifiers

/-- A block that is not malformed counts. -/
theorem mem_kinds {t : Template} {b : Block} {kind : BlockKind} (hb : .block b ∈ t.segments)
    (hkind : BlockKind.ofContent b.content = .ok kind) : kind ∈ t.kinds := by
  have hblocks : b ∈ t.blocks := List.mem_filterMap.mpr ⟨.block b, hb, rfl⟩
  refine List.mem_filterMap.mpr ⟨b, hblocks, ?_⟩
  rw [hkind]
  rfl

section

variable {t : Template} {b : Block} {kind : BlockKind} (hb : .block b ∈ t.segments)
  (hkind : BlockKind.ofContent b.content = .ok kind)

include hb hkind

/-- The parameters of a block are parameters of its template. -/
theorem mentioned_subset : kind.mentioned ⊆ t.mentionedParameters := fun _ hname =>
  List.mem_flatMap.mpr ⟨kind, mem_kinds hb hkind, hname⟩

/-- The parameters that a block consults are consulted by its template. -/
theorem consulted_subset : kind.consulted ⊆ t.consultedParameters := fun _ hname =>
  List.mem_flatMap.mpr ⟨kind, mem_kinds hb hkind, hname⟩

/-- The modifiers that a block names are named by its template. -/
theorem modifiers_subset : kind.modifiers ⊆ t.mentionedModifiers := fun _ hname =>
  List.mem_flatMap.mpr ⟨kind, mem_kinds hb hkind, hname⟩

end

end Template

/-! ### Where the clauses of a choice name something -/

namespace BlockKind

/-- A parameter that may be shown is mentioned. -/
theorem shown_subset_mentioned (kind : BlockKind) : kind.shown ⊆ kind.mentioned :=
  List.subset_append_left _ _

/-- A parameter that decides is mentioned. -/
theorem consulted_subset_mentioned (kind : BlockKind) : kind.consulted ⊆ kind.mentioned :=
  List.subset_append_right _ _

end BlockKind

namespace Clause

variable {reference logic : String} {d : Draft}

/-- What the text of a clause mentions may be shown by its block. -/
theorem mem_shown_of_mem_drafts {text name : String} (hd : d ∈ drafts logic)
    (htext : d.text = some text) (hname : name ∈ Token.names (Token.ofString text)) :
    name ∈ (BlockKind.choice reference logic).shown := by
  refine List.mem_flatMap.mpr ⟨d, hd, ?_⟩
  simpa only [Draft.shown, htext] using hname

/-- The modifier of a clause is named by its block. -/
theorem mem_modifiers_of_mem_drafts {name : String} (hd : d ∈ drafts logic)
    (hmodifier : d.modifier = some name) :
    name ∈ (BlockKind.choice reference logic).modifiers :=
  List.mem_filterMap.mpr ⟨d, hd, hmodifier⟩

end Clause

/-! ### Resolved clauses -/

namespace Clause

/-- A draft resolves alike where the parameters agree on what it compares with. -/
theorem Draft.resolve_congr {params params' : Params} {d : Draft}
    (h : ∀ name ∈ d.consulted, params.get? name = params'.get? name) :
    d.resolve params = d.resolve params' := by
  obtain ⟨modifier, operand, text⟩ := d
  cases modifier with
  | none => rfl
  | some modifier =>
    cases operand with
    | none => rfl
    | some operand =>
      cases text with
      | none => rfl
      | some text =>
        cases operand with
        | literal value => rfl
        | parameter name =>
          have hname := h name (List.mem_singleton_self name)
          simp only [resolve, operandValue, hname]

/-- The clauses of a choice resolve alike where the parameters agree on what it consults. -/
theorem resolveAll_congr {params params' : Params} {reference logic : String}
    (h : ∀ name ∈ (BlockKind.choice reference logic).consulted,
      params.get? name = params'.get? name) :
    resolveAll params logic = resolveAll params' logic := by
  refine List.map_congr_left fun d hd => Draft.resolve_congr fun name hname => ?_
  exact h name (List.mem_cons_of_mem _ (List.mem_flatMap.mpr ⟨d, hd, hname⟩))

/-- A clause that resolves keeps the modifier and the text that its draft has. -/
theorem exists_draft_of_mem_resolveAll {params : Params} {logic : String} {clause : Clause}
    (h : .ok clause ∈ resolveAll params logic) :
    ∃ d ∈ drafts logic, d.modifier = some clause.modifier ∧ d.text = some clause.text := by
  obtain ⟨d, hd, hresolve⟩ := List.mem_map.mp h
  refine ⟨d, hd, Draft.modifier_of_resolve_eq_ok hresolve, ?_⟩
  obtain ⟨modifier, operand, text⟩ := d
  cases modifier <;> cases operand <;> cases text <;> cases hresolve
  rfl

end Clause

end Phrasebook
