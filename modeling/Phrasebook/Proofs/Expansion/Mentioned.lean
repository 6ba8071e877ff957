import Phrasebook.Proofs.Expansion.Choice
import Phrasebook.Proofs.Expansion.Names

/-!
# An expansion reads only what its template names

Two expansions of one template cannot be told apart if they differ in nothing that the template
names (`evaluate_eq_of_agree_on_mentioned`). Runs that cannot be told apart are `Run.Alike`: they
have one result and the same warnings. What makes two settings treat a choice alike is collected
clause by clause in `TreatsAlike`. It holds of two parameter mappings with the built-in registry,
whose modifiers see nothing of the parameters, and of two registries with one parameter mapping;
from there on (`alike_chooseFrom`, `alike_expandBlock`, `alike_expandSegments`) the two cases are
one proof.
-/

namespace Phrasebook

/-! ### Runs that cannot be told apart -/

/-- Two runs have the same result and the same warnings. What modifiers installed on the way is left
out: an expansion does not see it. -/
structure Run.Alike {α : Type} (a b : Run α) : Prop where
  result : a.result = b.result
  warnings : a.warnings = b.warnings

namespace Run.Alike

variable {α β : Type}

/-- A run is like itself. -/
protected theorem refl (a : Run α) : a.Alike a := ⟨rfl, rfl⟩

/-- Runs that are alike, followed by runs that are alike, are alike. -/
theorem bind {a b : Run α} {f g : α → Run β} (h : a.Alike b) (hnext : ∀ x, (f x).Alike (g x)) :
    (a >>= f).Alike (b >>= g) := by
  have hafter := hnext b.result
  constructor
  · rw [result_bind, result_bind, h.result, hafter.result]
  · rw [warnings_bind, warnings_bind, h.result, h.warnings, hafter.warnings]

/-- A function applied to runs that are alike keeps them so. -/
theorem map {a b : Run α} (h : a.Alike b) (f : α → β) : (f <$> a).Alike (f <$> b) := by
  constructor
  · rw [result_map, result_map, h.result]
  · rw [warnings_map, warnings_map, h.warnings]

end Run.Alike

/-! ### Agreement -/

/-- Two mappings have the same value, or none, under each of the names. -/
def Keyed.AgreeOn {α : Type} (names : List String) (m m' : Keyed α) : Prop :=
  ∀ name ∈ names, m.get? name = m'.get? name

/-- Under each of the names there is no modifier in either registry, or there are two that put out
the same whatever they are asked. -/
def Registry.AgreeOn (names : List String) (r r' : Registry) : Prop :=
  ∀ name ∈ names, (r.get? name).map Modifier.output = (r'.get? name).map Modifier.output

/-- Mappings that agree on some names agree on fewer ones. -/
theorem Keyed.AgreeOn.mono {α : Type} {names more : List String} {m m' : Keyed α}
    (h : Keyed.AgreeOn more m m') (hsub : names ⊆ more) : Keyed.AgreeOn names m m' :=
  fun name hname => h name (hsub hname)

/-- A mapping agrees with what it was before an insertion on all names but the new one. -/
theorem Keyed.agreeOn_insert {α : Type} {names : List String} {key : String} (h : key ∉ names)
    (m : Keyed α) (value : α) : Keyed.AgreeOn names (m.insert key value) m := by
  intro name hname
  rw [get?_insert, if_neg]
  rintro rfl
  exact h hname

namespace Registry.AgreeOn

variable {names : List String} {r r' : Registry}

/-- Registries that agree on some names agree on fewer ones. -/
theorem mono {more : List String} (h : AgreeOn more r r') (hsub : names ⊆ more) :
    AgreeOn names r r' :=
  fun name hname => h name (hsub hname)

/-- A name on which registries agree is registered in both or in neither. -/
theorem has_eq (h : AgreeOn names r r') {name : String} (hname : name ∈ names) :
    r.has name = r'.has name := by
  have hsome := congrArg Option.isSome (h name hname)
  rw [Option.isSome_map, Option.isSome_map] at hsome
  exact hsome

/-- Under a name on which registries agree they put out the same. -/
theorem apply_eq (h : AgreeOn names r r') {name : String} (hname : name ∈ names) (call : Call) :
    r.apply name call = r'.apply name call := by
  have happly (m : Option Modifier) :
      (m.bind fun m => m.output call) = (m.map Modifier.output).bind fun output => output call := by
    cases m <;> rfl
  unfold apply
  rw [happly, happly, h name hname]

/-- A registry agrees with what it was before a registration on all names but the new one. -/
theorem register {name : String} (h : name ∉ names) (r : Registry) (m : Modifier) :
    AgreeOn names (r.register name m) r :=
  fun other hother => congrArg _ (Keyed.agreeOn_insert h r.modifiers m other hother)

end Registry.AgreeOn

namespace Setting

variable {s s' : Setting}

/-! ### Output text -/

/-- What is shown of a parameter depends on its value alone. -/
theorem showParameter_congr {name : String} (h : s.params.get? name = s'.params.get? name) :
    s.showParameter name = s'.showParameter name := by
  unfold showParameter
  rw [h]

/-- What tokens show depends on the parameters that they mention alone. -/
theorem showTokens_congr {tokens : List Token}
    (h : Keyed.AgreeOn (Token.names tokens) s.params s'.params) :
    s.showTokens tokens = s'.showTokens tokens := by
  induction tokens with
  | nil => rfl
  | cons token rest ih =>
    cases token with
    | literal text =>
      have hrest := ih fun name hname => h name hname
      simp only [showTokens, showToken, hrest]
    | parameter name =>
      have hname := showParameter_congr (h name List.mem_cons_self)
      have hrest := ih fun other hother => h other (List.mem_cons_of_mem _ hother)
      simp only [showTokens, showToken, hname, hrest]

/-- Output text reads the parameters that it mentions. -/
theorem substitute_congr {text : String}
    (h : Keyed.AgreeOn (Token.names (Token.ofString text)) s.params s'.params) :
    s.substitute text = s'.substitute text :=
  showTokens_congr h

/-- The sentinel mentions nothing. -/
theorem substitute_sentinel : s.substitute sentinel = s'.substitute sentinel := by
  refine substitute_congr fun name hname => ?_
  have hnone : Token.names (Token.ofString sentinel) = [] := by
    decide +kernel
  rw [hnone] at hname
  exact absurd hname List.not_mem_nil

/-! ### Choices -/

variable (s s') in
/-- Two settings treat a clause alike: they give notice of its modifier alike, its modifier answers
alike, and the answer becomes the same text. -/
structure TreatsAlike (reference : Option Value) (clause : Clause) : Prop where
  has : s.registry.has clause.modifier = s'.registry.has clause.modifier
  apply : s.registry.apply clause.modifier (s.callOf reference clause) =
    s'.registry.apply clause.modifier (s'.callOf reference clause)
  substitute : ∀ output,
    s.registry.apply clause.modifier (s.callOf reference clause) = some output →
      s.substitute output = s'.substitute output

/-- Asking a modifier is alike in two settings if it puts out the same in both. -/
theorem alike_ask {name : String} {call call' : Call}
    (h : s.registry.apply name call = s'.registry.apply name call') :
    (s.ask name call).Alike (s'.ask name call') :=
  ⟨h, rfl⟩

/-- Asking the default modifier is alike in two settings if it puts out the same in both. -/
theorem alike_askDefault (h : s.registry.apply Modifier.defaultName Registry.defaultCall =
    s'.registry.apply Modifier.defaultName Registry.defaultCall) :
    s.askDefault.Alike s'.askDefault :=
  (alike_ask h).bind fun _ => .refl _

/-- A choice goes the same way where all its clauses are treated alike. -/
theorem alike_chooseFrom {block : String} {reference : Option Value} {index : Nat}
    {clauses : List (Except ClauseFault Clause)}
    (hdefault : s.registry.apply Modifier.defaultName Registry.defaultCall =
      s'.registry.apply Modifier.defaultName Registry.defaultCall)
    (hclauses : ∀ clause, .ok clause ∈ clauses → s.TreatsAlike s' reference clause) :
    (s.chooseFrom block reference index clauses).Alike
      (s'.chooseFrom block reference index clauses) := by
  induction clauses generalizing index with
  | nil => exact (Run.Alike.refl _).bind fun _ => alike_askDefault hdefault
  | cons first rest ih =>
    cases first with
    | error fault => exact (Run.Alike.refl _).bind fun _ => alike_askDefault hdefault
    | ok clause =>
      obtain ⟨hhas, happly, hsubstitute⟩ := hclauses clause List.mem_cons_self
      have hrest : (s.chooseFrom block reference (index + 1) rest).Alike
          (s'.chooseFrom block reference (index + 1) rest) :=
        ih fun later hlater => hclauses later (List.mem_cons_of_mem _ hlater)
      -- one answer on both sides: both choices end here with one text, or both go on
      constructor
      · rw [result_chooseFrom_ok, result_chooseFrom_ok, ← happly]
        split
        · next output houtput => rw [hsubstitute output houtput]
        · exact hrest.result
      · rw [warnings_chooseFrom_ok, warnings_chooseFrom_ok, ← happly, ← hhas]
        congr 1
        split
        · next output houtput => rw [hsubstitute output houtput]
        · exact hrest.warnings

/-! ### Blocks and templates -/

/-- A block expands alike where the parameters that it mentions agree and its clauses are treated
alike. -/
theorem alike_expandBlock {content : String}
    (hdefault : s.registry.apply Modifier.defaultName Registry.defaultCall =
      s'.registry.apply Modifier.defaultName Registry.defaultCall)
    (hparams : ∀ kind, BlockKind.ofContent content = .ok kind →
      Keyed.AgreeOn kind.mentioned s.params s'.params)
    (hclauses : ∀ reference logic,
      BlockKind.ofContent content = .ok (.choice reference logic) →
      ∀ clause, .ok clause ∈ Clause.resolveAll s.params logic →
        s.TreatsAlike s' (s.params.get? reference) clause) :
    (s.expandBlock content).Alike (s'.expandBlock content) := by
  cases hkind : BlockKind.ofContent content with
  | error reason =>
    rw [expandBlock_of_error s hkind, expandBlock_of_error s' hkind]
    exact .refl _
  | ok kind =>
    have hagree := hparams kind hkind
    cases kind with
    | parameter name =>
      rw [expandBlock_of_parameter s hkind, expandBlock_of_parameter s' hkind,
        showParameter_congr (hagree name List.mem_cons_self)]
      exact .refl _
    | choice reference logic =>
      have hconsulted := hagree.mono (BlockKind.consulted_subset_mentioned _)
      have hreference := hconsulted reference List.mem_cons_self
      rw [expandBlock_of_choice s hkind, expandBlock_of_choice s' hkind, choose, choose,
        ← hreference, ← Clause.resolveAll_congr hconsulted]
      exact (alike_chooseFrom hdefault (hclauses reference logic hkind)).map _

/-- Segments expand alike where each of them does. -/
theorem alike_expandSegments {segments : List Segment}
    (h : ∀ b, .block b ∈ segments → (s.expandBlock b.content).Alike (s'.expandBlock b.content)) :
    (s.expandSegments segments).Alike (s'.expandSegments segments) := by
  induction segments with
  | nil => exact .refl _
  | cons segment rest ih =>
    have hfirst : (s.expandSegment segment).Alike (s'.expandSegment segment) := by
      cases segment with
      | literal text => exact .refl _
      | block b => exact h b List.mem_cons_self
    have hrest := ih fun b hb => h b (List.mem_cons_of_mem _ hb)
    rw [expandSegments_cons, expandSegments_cons]
    refine hfirst.bind fun first => ?_
    cases first with
    | error e => exact .refl _
    | ok text =>
      refine hrest.bind fun others => ?_
      cases others <;> exact .refl _

end Setting

/-- Expansions that cannot be told apart leave the same behind in a fresh context. -/
theorem Template.evaluate_congr {t : Template} {registry registry' : Registry}
    {params params' : Params}
    (h : ((Setting.mk registry params).expandTemplate t).Alike
      ((Setting.mk registry' params').expandTemplate t)) :
    t.evaluate registry params = t.evaluate registry' params' := by
  unfold evaluate Context.perform Context.fresh
  simp only [h.result, h.warnings]

/-! ### The two ways to differ -/

namespace Setting

/-- The built-in modifiers treat a clause alike under parameters that agree on its mentions. -/
theorem treatsAlike_builtin {params params' : Params} {reference logic : String}
    (h : Keyed.AgreeOn (BlockKind.choice reference logic).shown params params')
    {clause : Clause} (hclause : .ok clause ∈ Clause.resolveAll params logic)
    (value : Option Value) :
    (Setting.mk .builtin params).TreatsAlike ⟨.builtin, params'⟩ value clause where
  has := rfl
  apply := Registry.apply_builtin_params _ _ _ _ _ _
  substitute output houtput := by
    obtain ⟨d, hd, -, htext⟩ := Clause.exists_draft_of_mem_resolveAll hclause
    -- a modifier that made up its output could mention any parameter; these two cannot
    rcases Registry.eq_of_apply_builtin houtput with rfl | rfl
    · exact substitute_congr fun name hname =>
        h name (Clause.mem_shown_of_mem_drafts hd htext hname)
    · exact substitute_sentinel

/-- Registries that agree on the modifiers of a choice treat its clauses alike. -/
theorem treatsAlike_of_agreeOn {registry registry' : Registry} {params : Params}
    {reference logic : String}
    (h : Registry.AgreeOn (BlockKind.choice reference logic).modifiers registry registry')
    {clause : Clause} (hclause : .ok clause ∈ Clause.resolveAll params logic)
    (value : Option Value) :
    (Setting.mk registry params).TreatsAlike ⟨registry', params⟩ value clause := by
  obtain ⟨d, hd, hmodifier, -⟩ := Clause.exists_draft_of_mem_resolveAll hclause
  have hnamed : clause.modifier ∈ (BlockKind.choice reference logic).modifiers :=
    Clause.mem_modifiers_of_mem_drafts hd hmodifier
  exact ⟨h.has_eq hnamed, h.apply_eq hnamed _, fun _ _ => substitute_congr fun _ _ => rfl⟩

end Setting

/-- An evaluation with the built-in registry reads no parameter that the template does not mention;
and with any registry it asks no modifier that the template does not name, the default one apart.
So it gives the same text or error and the same warnings where all these agree. -/
theorem evaluate_eq_of_agree_on_mentioned (text : String) :
    (∀ params params' : Params,
      Keyed.AgreeOn (Template.parse text).mentionedParameters params params' →
      (Template.parse text).evaluate .builtin params =
        (Template.parse text).evaluate .builtin params') ∧
    (∀ (params : Params) (registry registry' : Registry),
      Registry.AgreeOn (Modifier.defaultName :: (Template.parse text).mentionedModifiers)
        registry registry' →
      (Template.parse text).evaluate registry params =
        (Template.parse text).evaluate registry' params) := by
  constructor
  · intro params params' hagree
    refine Template.evaluate_congr (Setting.alike_expandSegments fun b hb => ?_)
    have hparams (kind : BlockKind) (hkind : BlockKind.ofContent b.content = .ok kind) :
        Keyed.AgreeOn kind.mentioned params params' :=
      hagree.mono (Template.mentioned_subset hb hkind)
    refine Setting.alike_expandBlock rfl hparams fun reference logic hkind clause hclause => ?_
    have hshown := (hparams _ hkind).mono (BlockKind.shown_subset_mentioned _)
    exact Setting.treatsAlike_builtin hshown hclause _
  · intro params registry registry' hagree
    refine Template.evaluate_congr (Setting.alike_expandSegments fun b hb => ?_)
    refine Setting.alike_expandBlock (hagree.apply_eq List.mem_cons_self _) (fun _ _ _ _ => rfl)
      fun reference logic hkind clause hclause => ?_
    have hmodifiers : (BlockKind.choice reference logic).modifiers ⊆
        Modifier.defaultName :: (Template.parse text).mentionedModifiers :=
      List.Subset.trans (Template.modifiers_subset hb hkind) (List.subset_cons_self _ _)
    exact Setting.treatsAlike_of_agreeOn (hagree.mono hmodifiers) hclause _

/-- The agreement at a template with a choice by two parameters and a further one in its output: a
parameter that only literal text seems to mention makes no difference, nor does a built-in modifier
that no clause names. -/
theorem evaluate_eq_of_agree_on_mentioned_unnamed :
    (Template.parse "$z@\x7bref=n||modi=mod=bigger:val=$m:text=$x\x7d").evaluate .builtin
        ((Keyed.ofList [("n", .number 7), ("m", .string "5")]).insert "z" (.bool true)) =
      (Template.parse "$z@\x7bref=n||modi=mod=bigger:val=$m:text=$x\x7d").evaluate .builtin
        (Keyed.ofList [("n", .number 7), ("m", .string "5")]) ∧
    (Template.parse "$z@\x7bref=n||modi=mod=bigger:val=$m:text=$x\x7d").evaluate
        (Registry.builtin.register "equal" .sentinelAlways) ∅ =
      (Template.parse "$z@\x7bref=n||modi=mod=bigger:val=$m:text=$x\x7d").evaluate .builtin ∅ := by
  refine ⟨(evaluate_eq_of_agree_on_mentioned _).1 _ _ (Keyed.agreeOn_insert ?_ _ _),
    (evaluate_eq_of_agree_on_mentioned _).2 _ _ _ (Registry.AgreeOn.register ?_ _ _)⟩
  · decide +kernel
  · decide +kernel

end Phrasebook
