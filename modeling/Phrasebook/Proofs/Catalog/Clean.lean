import Phrasebook.Lint
import Phrasebook.Proofs.Lint.Prediction

/-!
# Catalogs without findings

Lint of a catalog goes through both dictionaries, entry by entry, while a look-up reads a dictionary
by key and stops at the first text that is not empty. A catalog has no findings exactly if no text
that stands under a key in one of its dictionaries has any (`lint_eq_nil_iff`). This covers more
than look-ups see: texts of the fallback dictionary that the base dictionary hides are linted too.
So whatever a look-up finds in such a catalog expands, with any parameters, and the expansion gives
no warning about the structure of its text (`evaluate_of_lint_eq_nil`).
-/

namespace Phrasebook

/-! ### Texts without findings -/

/-- A text without findings expands whatever the parameters, and gives no warning about its
clauses. -/
theorem Registry.evaluate_of_lint_eq_nil {registry : Registry} {text : String}
    (h : registry.lint text = []) (params : Params) :
    ∃ expanded warnings,
      (Template.parse text).evaluate registry params = (.ok expanded, warnings) ∧
      (∀ block index fault, .malformedClause block index fault ∉ warnings) ∧
      ∀ block name, .unknownModifier block name ∉ warnings := by
  have hfault : Template.firstFault? (Template.parse text).segments = none := by
    by_contra hsome
    obtain ⟨⟨b, reason⟩, hfault⟩ := Option.ne_none_iff_exists'.mp hsome
    obtain ⟨f, hf, -⟩ :=
      (Registry.exists_malformedBlock_iff (r := registry)).mpr ⟨b, reason, hfault⟩
    rw [h] at hf
    exact List.not_mem_nil hf
  obtain ⟨expanded, hexpanded⟩ :=
    Setting.exists_result_expandSegments ⟨registry, params⟩ hfault
  refine ⟨expanded, ((Template.parse text).evaluate registry params).2, ?_, ?_, ?_⟩
  · refine Prod.ext ?_ rfl
    rw [Template.evaluate_fst]
    exact hexpanded
  · intro block index fault hw
    obtain ⟨span, -, hmem⟩ := exists_span_of_malformedClause hw
    rw [h] at hmem
    exact List.not_mem_nil hmem
  · intro block name hw
    obtain ⟨span, suggestions, -, hmem⟩ := exists_span_of_unknownModifier hw
    rw [h] at hmem
    exact List.not_mem_nil hmem

/-- A dictionary yields the texts under its keys that are not empty. -/
theorem Dictionary.get?_eq_some_iff {d : Dictionary} {key text : String} :
    d.get? key = some text ↔ d.translations.get? key = some text ∧ text ≠ "" := by
  simp [Dictionary.get?, Option.filter_eq_some_iff]

namespace Catalog

variable {c : Catalog} {registry : Registry}

/-! ### Catalogs without findings -/

/-- No text of a dictionary has findings, be it under an empty key, empty, or hidden by the other
dictionary. -/
def Clean (c : Catalog) (registry : Registry) : Prop :=
  ∀ role d, c.dictionary? role = some d →
    ∀ key text, d.translations.get? key = some text → registry.lint text = []

/-- A key has a text that is not empty in one of the dictionaries. -/
def Translates (c : Catalog) (key : String) : Prop :=
  ∃ role d text, c.dictionary? role = some d ∧ d.translations.get? key = some text ∧ text ≠ ""

/-- The dictionaries of a catalog are those that it has in the two roles. -/
theorem mem_dictionaries_iff {role : Role} {d : Dictionary} :
    (role, d) ∈ c.dictionaries ↔ c.dictionary? role = some d := by
  have hall : role ∈ Role.all := by cases role <;> decide
  unfold dictionaries
  rw [List.mem_filterMap]
  constructor
  · rintro ⟨role', -, hmap⟩
    obtain ⟨d', hd', hpair⟩ := Option.map_eq_some_iff.mp hmap
    obtain ⟨rfl, rfl⟩ := Prod.mk.inj hpair
    exact hd'
  · intro hd
    exact ⟨role, hall, by rw [hd]; rfl⟩

/-- Nothing is found in a dictionary just when nothing is found in any of its texts. -/
theorem lintDictionary_eq_nil_iff {role : Role} {d : Dictionary} :
    lintDictionary registry role d = [] ↔
      ∀ key text, d.translations.get? key = some text → registry.lint text = [] := by
  simp only [lintDictionary, List.flatMap_eq_nil_iff, List.map_eq_nil_iff,
    Keyed.get?_eq_some_iff, Prod.forall]

/-- Lint of a catalog finds nothing just when the catalog is clean. -/
theorem lint_eq_nil_iff : c.lint registry = [] ↔ c.Clean registry := by
  simp only [lint, Clean, List.flatMap_eq_nil_iff, Prod.forall, mem_dictionaries_iff,
    lintDictionary_eq_nil_iff]

/-! ### Look-ups -/

/-- A dictionary that a look-up may consult is the one of a role. -/
theorem exists_role_of_consulted {d? : Option Dictionary} {useFallback : Bool}
    (h : d? ∈ if useFallback then [c.base, c.fallback] else [c.base]) :
    ∃ role, c.dictionary? role = d? := by
  cases useFallback with
  | false =>
    obtain rfl : d? = c.base := by simpa using h
    exact ⟨.base, rfl⟩
  | true =>
    have hroles : d? = c.base ∨ d? = c.fallback := by simpa using h
    rcases hroles with rfl | rfl
    · exact ⟨.base, rfl⟩
    · exact ⟨.fallback, rfl⟩

/-- What a look-up finds stands under the key in a dictionary. -/
theorem exists_of_lookup_eq_some {iso : Option String} {key text : String} {useFallback : Bool}
    (h : c.lookup iso key useFallback = some text) :
    ∃ role d, c.dictionary? role = some d ∧ d.translations.get? key = some text := by
  obtain ⟨d?, hconsulted, hfound⟩ := List.exists_of_findSome?_eq_some h
  obtain ⟨role, hrole⟩ := exists_role_of_consulted hconsulted
  obtain ⟨d, hd, htext⟩ := Option.bind_eq_some_iff.mp hfound
  obtain ⟨hd?, -⟩ := Option.filter_eq_some_iff.mp hd
  exact ⟨role, d, hrole.trans hd?, (Dictionary.get?_eq_some_iff.mp htext).1⟩

/-- A look-up without a language finds a text if either dictionary has one. -/
theorem exists_lookup_eq_some {key : String} (h : c.Translates key) :
    ∃ text, c.lookup none key true = some text := by
  obtain ⟨role, d, text, hd, htext⟩ := h
  by_contra hnone
  have hall := List.findSome?_eq_none_iff.mp (Option.eq_none_iff_forall_ne_some.mpr
    fun found hfound => hnone ⟨found, hfound⟩)
  have hconsulted : some d ∈ [c.base, c.fallback] := by
    cases role with
    | base => exact hd ▸ List.mem_cons_self
    | fallback => exact hd ▸ List.mem_cons_of_mem _ List.mem_cons_self
  have hget : d.get? key = none := hall (some d) hconsulted
  rw [Dictionary.get?_eq_some_iff.mpr htext] at hget
  cases hget

/-- What a look-up finds in a clean catalog has no findings. -/
theorem Clean.lint_of_lookup (hclean : c.Clean registry) {iso : Option String} {key text : String}
    {useFallback : Bool} (h : c.lookup iso key useFallback = some text) :
    registry.lint text = [] := by
  obtain ⟨role, d, hd, htext⟩ := exists_of_lookup_eq_some h
  exact hclean role d hd key text htext

end Catalog

end Phrasebook
