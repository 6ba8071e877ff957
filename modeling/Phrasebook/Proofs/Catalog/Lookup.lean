import Phrasebook.Localizer
import Phrasebook.Proofs.Catalog.Clean

/-!
# Which dictionary answers

A look-up asks the base dictionary first, and after it the fallback dictionary if that may be used
(`Catalog.consulted`). A dictionary answers with its text for the key if it is of the language asked
for and the text is not empty (`Dictionary.Answers`). The look-up yields the first answer there is
(`Catalog.lookup_eq_some_iff_first`). To allow the fallback dictionary only makes the list longer at
its end, so that no answer is replaced (`Catalog.lookup_true`); a request that forbids it is answered
as it would be otherwise, or by its alternative (`Localizer.get_forceIso`).
-/

namespace Phrasebook

namespace Dictionary

/-- A dictionary answers a look-up with a text: it is of the language asked for, if one is, and the
text stands under the key and is not empty. -/
structure Answers (d : Dictionary) (iso : Option String) (key text : String) : Prop where
  language : ∀ language, iso = some language → d.iso = some language
  translated : d.translations.get? key = some text
  text_ne_empty : text ≠ ""

/-- The answer of a dictionary, if it has one. -/
def answer? (d : Dictionary) (iso : Option String) (key : String) : Option String :=
  if d.speaks iso then d.get? key else none

/-- A dictionary is of the language that is asked for if one is asked for. -/
theorem speaks_iff {d : Dictionary} {iso : Option String} :
    d.speaks iso = true ↔ ∀ language, iso = some language → d.iso = some language := by
  cases iso with
  | none => simp [speaks]
  | some language => simp [speaks]

/-- The answer that is computed is the one that the dictionary gives. -/
theorem answer?_eq_some_iff {d : Dictionary} {iso : Option String} {key text : String} :
    d.answer? iso key = some text ↔ d.Answers iso key text := by
  constructor
  · intro h
    rw [answer?, Option.ite_none_right_eq_some, get?_eq_some_iff] at h
    obtain ⟨hspeaks, htext, hne⟩ := h
    exact ⟨speaks_iff.mp hspeaks, htext, hne⟩
  · intro ⟨hlanguage, htext, hne⟩
    rw [answer?, if_pos (speaks_iff.mpr hlanguage), get?_eq_some_iff]
    exact ⟨htext, hne⟩

/-- No answer is computed just when the dictionary gives none. -/
theorem answer?_eq_none_iff {d : Dictionary} {iso : Option String} {key : String} :
    d.answer? iso key = none ↔ ∀ text, ¬ d.Answers iso key text := by
  simp only [Option.eq_none_iff_forall_ne_some, ne_eq, answer?_eq_some_iff]

end Dictionary

namespace Catalog

variable (c : Catalog) (iso : Option String) (key : String)

/-- The dictionaries that a look-up asks, in this order. -/
def consulted (useFallback : Bool) : List Dictionary :=
  c.base.toList ++ if useFallback then c.fallback.toList else []

/-- A look-up asks one dictionary after another. -/
theorem lookup_eq_findSome? (useFallback : Bool) :
    c.lookup iso key useFallback = (c.consulted useFallback).findSome? (·.answer? iso key) := by
  have hask (d? : Option Dictionary) :
      ((d?.filter (·.speaks iso)).bind (·.get? key)) = d?.toList.findSome? (·.answer? iso key) := by
    cases d? with
    | none => rfl
    | some d =>
      by_cases hspeaks : d.speaks iso
      · simp [Dictionary.answer?, Option.filter, hspeaks]
      · simp [Dictionary.answer?, Option.filter, hspeaks]
  cases useFallback with
  | false => simp [lookup, consulted, hask]
  | true =>
    have hboth : c.lookup iso key true = (c.base.toList.findSome? (·.answer? iso key)).or
        (c.fallback.toList.findSome? (·.answer? iso key)) := by
      simp only [lookup, if_true, hask, List.findSome?_cons, List.findSome?_nil]
      cases c.base.toList.findSome? (·.answer? iso key) with
      | none => cases c.fallback.toList.findSome? (·.answer? iso key) <;> rfl
      | some text => rfl
    rw [hboth, consulted, if_pos rfl, List.findSome?_append]

variable {c iso key}

/-- A look-up yields the answer of the first dictionary that has one. -/
theorem lookup_eq_some_iff_first {useFallback : Bool} {text : String} :
    c.lookup iso key useFallback = some text ↔
      ∃ earlier d later, c.consulted useFallback = earlier ++ d :: later ∧
        d.Answers iso key text ∧ ∀ e ∈ earlier, ∀ other, ¬ e.Answers iso key other := by
  rw [lookup_eq_findSome?, List.findSome?_eq_some_iff]
  simp only [Dictionary.answer?_eq_some_iff, Dictionary.answer?_eq_none_iff]

/-- A look-up yields nothing only if no dictionary has an answer. -/
theorem lookup_eq_none_iff_unanswered {useFallback : Bool} :
    c.lookup iso key useFallback = none ↔
      ∀ d ∈ c.consulted useFallback, ∀ text, ¬ d.Answers iso key text := by
  rw [lookup_eq_findSome?, List.findSome?_eq_none_iff]
  simp only [Dictionary.answer?_eq_none_iff]

/-- With the fallback dictionary, a look-up yields what it yields without, and otherwise asks that
dictionary. -/
theorem lookup_true :
    c.lookup iso key true =
      (c.lookup iso key false).or (c.fallback.toList.findSome? (·.answer? iso key)) := by
  have hconsulted : c.consulted true = c.consulted false ++ c.fallback.toList := by
    simp [consulted]
  rw [lookup_eq_findSome?, lookup_eq_findSome?, hconsulted, List.findSome?_append]

/-- No look-up finds the empty text. -/
theorem lookup_ne_empty {useFallback : Bool} : c.lookup iso key useFallback ≠ some "" := by
  intro h
  obtain ⟨earlier, d, later, -, hanswers, -⟩ := lookup_eq_some_iff_first.mp h
  exact hanswers.text_ne_empty rfl

end Catalog

/-- A request that forbids the fallback dictionary is answered as one that allows it, or by its
alternative. -/
theorem Localizer.get_forceIso (l : Localizer) (r : Request) :
    l.get { r with forceIso := true } = l.get { r with forceIso := false } ∨
      l.get { r with forceIso := true } = r.alt := by
  obtain ⟨iso, key?, alt, params, force⟩ := r
  cases key? with
  | none => exact Or.inl rfl
  | some key =>
    by_cases hkey : key.isEmpty
    · left
      simp [get, hkey]
    · cases hbase : l.catalog.lookup iso key false with
      | none =>
        right
        simp [get, hkey, hbase]
      | some text =>
        left
        have hboth : l.catalog.lookup iso key true = some text := by
          rw [Catalog.lookup_true, hbase, Option.some_or]
        simp [get, hkey, hbase, hboth]

namespace Catalog

/-- Dictionaries are asked in order, the base dictionary and then, if it may be used, the fallback
dictionary; one of another language than the one asked for has no answer, and neither has one whose
text is empty. The look-up yields the first answer, nothing if there is none, and never an empty
text. So the fallback dictionary only adds: what is found without it is found with it. A request that
forbids it is answered as one that allows it, or by its alternative. -/
theorem dictionaries_asked_in_order :
    (∀ (c : Catalog) (iso : Option String) (key : String) (useFallback : Bool),
      (∀ text, c.lookup iso key useFallback = some text ↔
        ∃ earlier d later, c.consulted useFallback = earlier ++ d :: later ∧
          d.Answers iso key text ∧ ∀ e ∈ earlier, ∀ other, ¬ e.Answers iso key other) ∧
      (c.lookup iso key useFallback = none ↔
        ∀ d ∈ c.consulted useFallback, ∀ text, ¬ d.Answers iso key text) ∧
      (∀ text, c.lookup iso key false = some text → c.lookup iso key true = some text) ∧
      c.lookup iso key useFallback ≠ some "") ∧
    (∀ (l : Localizer) (r : Request),
      l.get { r with forceIso := true } = l.get { r with forceIso := false } ∨
        l.get { r with forceIso := true } = r.alt) := by
  refine ⟨fun c iso key useFallback => ⟨fun text => lookup_eq_some_iff_first,
    lookup_eq_none_iff_unanswered, fun text hbase => ?_, lookup_ne_empty⟩,
    fun l r => l.get_forceIso r⟩
  rw [lookup_true, hbase, Option.some_or]

/-- Two dictionaries of one language: what the base dictionary has is found with and without the
other one, and where its text is empty only the other one answers. -/
theorem dictionaries_asked_in_order_one_language :
    let base : Dictionary := ⟨some "de", none, Keyed.ofList [("bye", "Tschüss"), ("hello", "")]⟩
    let fallback : Dictionary :=
      ⟨some "de", none, Keyed.ofList [("bye", "Servus"), ("hello", "Hallo")]⟩
    let c : Catalog := ⟨some base, some fallback⟩
    c.lookup (some "de") "bye" false = some "Tschüss" ∧
      c.lookup (some "de") "bye" true = some "Tschüss" ∧
      c.lookup (some "de") "hello" false = none ∧
      c.lookup (some "de") "hello" true = some "Hallo" := by
  intro base fallback c
  have hbye : c.lookup (some "de") "bye" false = some "Tschüss" := by decide +kernel
  have hhello : fallback.Answers (some "de") "hello" "Hallo" :=
    ⟨fun language h => h, by decide +kernel, by decide⟩
  have hempty : ∀ text, ¬ base.Answers (some "de") "hello" text := by
    rintro text ⟨-, htext, hne⟩
    have hget : base.translations.get? "hello" = some "" := by decide +kernel
    exact hne (Option.some.inj (htext.symm.trans hget))
  refine ⟨hbye, (dictionaries_asked_in_order.1 c (some "de") "bye" false).2.2.1 _ hbye, ?_, ?_⟩
  · refine (dictionaries_asked_in_order.1 c (some "de") "hello" false).2.1.mpr fun d hd => ?_
    obtain rfl : d = base := by simpa [consulted, c] using hd
    exact hempty
  · refine ((dictionaries_asked_in_order.1 c (some "de") "hello" true).1 "Hallo").mpr
      ⟨[base], fallback, [], rfl, hhello, fun e he => ?_⟩
    obtain rfl : e = base := by simpa using he
    exact hempty

end Catalog

end Phrasebook
