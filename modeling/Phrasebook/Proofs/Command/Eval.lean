import Phrasebook.Proofs.Command.Check

/-!
# Two commands, one expansion

`eval` expands a template that it is given, `translate` the text of a key of a catalog. Where the
two texts are one, so are the outputs, in plain mode: `eval` falls back on its own
(`output_runEval`), `translate` in the expansion it asks for (`runTranslate_of_lookup`), both on the
alternative and both at a malformed block. Only the codes may differ, as `eval` tells of a malformed
block even when it has an alternative (`code_runEval`), while `translate` tells only of an answer
that is missing (`eval_translate_agree`).
-/

namespace Phrasebook

/-- A block of the template is neither a parameter nor a choice. -/
def Template.Malformed (t : Template) : Prop :=
  ∃ b ∈ t.blocks, ∃ reason, BlockKind.ofContent b.content = .error reason

/-- A template is malformed if an expansion stops at one of its blocks. -/
theorem Template.malformed_iff_firstFault? {t : Template} :
    t.Malformed ↔ ∃ b reason, firstFault? t.segments = some (b, reason) := by
  constructor
  · rintro ⟨b, hb, reason, hreason⟩
    obtain ⟨segment, hsegment, hblock⟩ := List.mem_filterMap.mp hb
    obtain rfl : segment = .block b := by
      cases segment with
      | literal text => cases hblock
      | block b' => exact congrArg _ (Option.some.inj hblock)
    cases hfault : firstFault? t.segments with
    | some fault => exact ⟨fault.1, fault.2, rfl⟩
    | none =>
      have hno := List.findSome?_eq_none_iff.mp hfault (.block b) hsegment
      rw [faultAt?_of_error hreason] at hno
      cases hno
  · rintro ⟨b, reason, hfault⟩
    obtain ⟨segment, hsegment, hstops⟩ := List.exists_of_findSome?_eq_some hfault
    obtain ⟨rfl, hreason⟩ := eq_block_of_faultAt? hstops
    exact ⟨b, List.mem_filterMap.mpr ⟨_, hsegment, rfl⟩, reason, hreason⟩

namespace Registry

/-- An expansion fails just when the template is malformed, whatever the parameters. -/
theorem exists_error_iff_malformed {r : Registry} {text : String} {params : Params} :
    (∃ e, r.tryExpand text params = .error e) ↔ (Template.parse text).Malformed := by
  rw [Template.malformed_iff_firstFault?]
  constructor
  · rintro ⟨e, he⟩
    obtain ⟨b, hfault, -⟩ := tryExpand_eq_error_iff.mp he
    exact ⟨b, e.reason, hfault⟩
  · rintro ⟨b, reason, hfault⟩
    exact ⟨⟨b.content, reason⟩, tryExpand_eq_error_iff.mpr ⟨b, hfault, rfl⟩⟩

/-- Evaluating a text is expanding it. -/
theorem evaluate_parse_fst (r : Registry) (text : String) (params : Params) :
    ((Template.parse text).evaluate r params).1 = r.tryExpand text params := rfl

end Registry

namespace Command

section

variable (verbose : Bool) (text : String) (pairs : List (String × String)) (alt : Option String)

/-- In plain mode, `eval` writes the expansion, or the alternative if there is one. -/
theorem output_runEval :
    (runEval verbose ⟨text, pairs, alt, false⟩).output =
      String.join ((Registry.builtin.expand (some text) alt
        (some (paramsOfTyped pairs))).toList.map line) := by
  rw [Registry.expand_eq_of_tryExpand]
  cases hexpand : Registry.builtin.tryExpand text (paramsOfTyped pairs) <;>
    simp [runEval, Registry.evaluate_parse_fst, hexpand]

/-- The code of `eval` tells whether the template is malformed, with or without an alternative. -/
theorem code_runEval :
    (runEval verbose ⟨text, pairs, alt, false⟩).code =
      match Registry.builtin.tryExpand text (paramsOfTyped pairs) with
      | .ok _ => codeOk
      | .error _ => codeData := by
  cases hexpand : Registry.builtin.tryExpand text (paramsOfTyped pairs) <;>
    simp [runEval, Registry.evaluate_parse_fst, hexpand]

end

/-- In plain mode, `translate` writes the expansion of the text of its key, or the alternative if
there is one, and its code tells whether there is an answer. -/
theorem runTranslate_plain {read : FileReader} {path key text : String} {catalog : Catalog}
    {iso : Option String} {forceIso : Bool} (hload : Catalog.load read path = .ok catalog)
    (hkey : key ≠ "") (hlookup : catalog.lookup iso key (!forceIso) = some text)
    (pairs : List (String × String)) (alt : Option String) :
    runTranslate read ⟨path, .key key, iso, forceIso, alt, pairs, false⟩ =
      let answer := Registry.builtin.expand (some text) alt (some (paramsOfTyped pairs))
      ⟨if answer.isSome then codeOk else codeData, String.join (answer.toList.map line), ""⟩ :=
  runTranslate_of_lookup hload rfl hkey hlookup

/-- `eval` of a text and `translate` of a key with that text write the same to the output, in plain
mode and given the same. If the text is well-formed, both write its expansion and end well, whatever
the alternative. If it has a malformed block, both write nothing and tell so when there is no
alternative; when there is one, both write it, but `eval` alone tells. So with an alternative the
codes differ just when the text has a malformed block. -/
theorem eval_translate_agree {read : FileReader} {path key text : String} {catalog : Catalog}
    {iso : Option String} {forceIso : Bool} (hload : Catalog.load read path = .ok catalog)
    (hkey : key ≠ "") (hlookup : catalog.lookup iso key (!forceIso) = some text)
    (pairs : List (String × String)) (verbose : Bool) :
    let evaluated (alt : Option String) := runEval verbose ⟨text, pairs, alt, false⟩
    let translated (alt : Option String) :=
      runTranslate read ⟨path, .key key, iso, forceIso, alt, pairs, false⟩
    let malformed := (Template.parse text).Malformed
    (∀ alt, (evaluated alt).output = (translated alt).output) ∧
    (evaluated none).code = (translated none).code ∧
    (∀ alt, (evaluated (some alt)).code ≠ (translated (some alt)).code ↔ malformed) ∧
    (¬malformed → ∃ expanded,
      Registry.builtin.tryExpand text (paramsOfTyped pairs) = .ok expanded ∧
      ∀ alt, (evaluated alt).output = line expanded ∧ (evaluated alt).code = codeOk ∧
        (translated alt).code = codeOk) ∧
    (malformed →
      (evaluated none).output = "" ∧ (evaluated none).code = codeData ∧
      ∀ alt, (evaluated (some alt)).output = line alt ∧
        (evaluated (some alt)).code = codeData ∧ (translated (some alt)).code = codeOk) := by
  intro evaluated translated malformed
  have hmalformed : (∃ e, Registry.builtin.tryExpand text (paramsOfTyped pairs) = .error e) ↔
      malformed := Registry.exists_error_iff_malformed
  have houtput := output_runEval verbose text pairs
  have hcode := code_runEval verbose text pairs
  have htranslated := runTranslate_plain hload hkey hlookup pairs
  have hdata : codeData ≠ codeOk := by decide
  refine ⟨fun alt => (houtput alt).trans (congrArg Outcome.output (htranslated alt)).symm, ?_⟩
  cases hexpand : Registry.builtin.tryExpand text (paramsOfTyped pairs) with
  | ok expanded =>
    have hwell : ¬malformed := by
      rw [← hmalformed, hexpand]
      rintro ⟨e, he⟩
      cases he
    simp only [evaluated, translated, houtput, hcode, htranslated, Registry.expand_eq_of_tryExpand,
      hexpand]
    simp [hwell]
  | error e =>
    have hstops : malformed := hmalformed.mp ⟨e, hexpand⟩
    simp only [evaluated, translated, houtput, hcode, htranslated, Registry.expand_eq_of_tryExpand,
      hexpand]
    simp [hstops, hdata]

/-- A key whose text has a malformed block behind a well-formed one: without an alternative both
commands fail, with one only `eval` does. -/
theorem eval_translate_agree_malformed :
    let read : FileReader := fun _ => .ok
      "\x7b\"base\":\x7b\"translations\":\x7b\"hi\":\"@\x7bvar=n\x7d, @\x7bx\x7d\"\x7d\x7d\x7d"
    let text := "@\x7bvar=n\x7d, @\x7bx\x7d"
    let evaluated (alt : Option String) := runEval false ⟨text, [("n", "3")], alt, false⟩
    let translated (alt : Option String) :=
      runTranslate read ⟨"a.json", .key "hi", none, false, alt, [("n", "3")], false⟩
    (evaluated none).output = (translated none).output ∧
      (evaluated none).code = (translated none).code ∧
      (evaluated (some "-")).output = (translated (some "-")).output ∧
      (evaluated (some "-")).code ≠ (translated (some "-")).code := by
  intro read text evaluated translated
  have hload : Catalog.load read "a.json" =
      .ok ⟨some ⟨none, none, Keyed.ofList [("hi", text)]⟩, none⟩ := by
    have hread : read "a.json" = .ok _ := rfl
    rw [Catalog.load, hread]
    rfl
  have hlookup : (Catalog.mk (some ⟨none, none, Keyed.ofList [("hi", text)]⟩) none).lookup none "hi"
      (!false) = some text := by decide +kernel
  have hmalformed : (Template.parse text).Malformed := by
    have hx : "x" ∈ (Template.parse text).blocks.map Block.content := by decide +kernel
    obtain ⟨b, hb, hcontent⟩ := List.mem_map.mp hx
    exact ⟨b, hb, .noSections, by rw [hcontent]; decide +kernel⟩
  obtain ⟨houtput, hcode, hcodes, -, -⟩ :=
    eval_translate_agree hload (by decide) hlookup [("n", "3")] false
  exact ⟨houtput none, hcode, houtput _, (hcodes "-").mpr hmalformed⟩

end Command

end Phrasebook
