import Phrasebook.Command.Execution
import Phrasebook.Proofs.Catalog.Clean

/-!
# A checked catalog never falls back

Checking files goes through them one by one: what it says about a file does not depend on the others
(`errors_runCheck`, `output_runCheck`, `output_runCheck_json`), and it ends well just when every
file loads and none has findings (`code_runCheck_eq_ok_iff`). A key of a checked file that has a
text is then translated by the expansion of that text, whatever the parameters, and never by the
alternative of the command (`check_then_translate`). Between the two commands files are taken to
stay as they are: both read them through the same reader.
-/

namespace Phrasebook.Command

variable {read : FileReader}

/-! ### The outcome of a check -/

/-- A file is without fault if it loads and its catalog is clean. -/
theorem isClean_checkFile_iff {path : String} :
    isClean (checkFile read path) = true ↔
      ∃ catalog, Catalog.load read path = .ok catalog ∧ catalog.Clean Registry.builtin := by
  unfold checkFile
  cases hload : Catalog.load read path with
  | error e =>
    constructor
    · intro h
      cases h
    · rintro ⟨catalog, hcatalog, -⟩
      cases hcatalog
  | ok catalog =>
    have hclean : isClean (.ok (catalog.lint Registry.builtin)) = true ↔
        catalog.Clean Registry.builtin := by
      rw [← Catalog.lint_eq_nil_iff]
      exact List.isEmpty_iff
    constructor
    · intro h
      exact ⟨catalog, rfl, hclean.mp h⟩
    · rintro ⟨catalog', hcatalog, h⟩
      obtain rfl := Except.ok.inj hcatalog
      exact hclean.mpr h

/-- A check ends well just when all of its files are without fault. -/
theorem code_runCheck_eq_ok_iff {c : CheckCommand} :
    (runCheck read c).code = codeOk ↔
      ∀ path ∈ c.files, ∃ catalog, Catalog.load read path = .ok catalog ∧
        catalog.Clean Registry.builtin := by
  have hcode : (runCheck read c).code =
      if c.files.all fun path => isClean (checkFile read path) then codeOk else codeData := by
    simp only [runCheck, List.all_map]
    rfl
  have hdata : codeData ≠ codeOk := by decide
  have hall : (runCheck read c).code = codeOk ↔
      (c.files.all fun path => isClean (checkFile read path)) = true := by
    rw [hcode]
    by_cases hclean : (c.files.all fun path => isClean (checkFile read path)) = true
    · simp [hclean]
    · simp [hclean, hdata]
  simp only [hall, List.all_eq_true, isClean_checkFile_iff]

/-! ### File by file -/

/-- What a check in JSON says about a file: its findings, none if it does not load. -/
def findingsOf (read : FileReader) (path : String) : List Json :=
  match checkFile read path with
  | .error _ => []
  | .ok findings => findings.map (jsonOfFinding path)

/-- The errors of a check are those of its files alone. -/
theorem errors_runCheck (files : List String) (json : Bool) :
    (runCheck read ⟨files, json⟩).errors =
      String.join (files.map fun path => (runCheck read ⟨[path], json⟩).errors) := by
  simp only [runCheck, List.map_map, List.map_cons, List.map_nil]
  refine congrArg String.join (List.map_congr_left fun path _ => ?_)
  simp

/-- The output of a check is that of its files alone. -/
theorem output_runCheck (files : List String) :
    (runCheck read ⟨files, false⟩).output =
      String.join (files.map fun path => (runCheck read ⟨[path], false⟩).output) := by
  simp only [runCheck, List.map_map, List.map_cons, List.map_nil]
  refine congrArg String.join (List.map_congr_left fun path _ => ?_)
  simp

/-- In JSON, the output of a check has the findings of its files. -/
theorem output_runCheck_json (files : List String) :
    (runCheck read ⟨files, true⟩).output =
      jsonLines (.array (files.flatMap (findingsOf read))) := by
  simp only [runCheck, if_true, List.flatMap_map]
  rfl

/-! ### Translating from a checked catalog -/

/-- The outcome of a command that answers with a text. -/
def answered (json : Bool) (text : String) : Outcome :=
  ⟨codeOk, if json then jsonLines (.object [("result", .string text)]) else line text, ""⟩

/-- A key with a text is answered with the expansion of the text, or with the alternative. -/
theorem runTranslate_of_lookup {c : TranslateCommand} {catalog : Catalog} {key text : String}
    (hload : Catalog.load read c.catalog = .ok catalog) (hsubject : c.subject = .key key)
    (hkey : key ≠ "") (hlookup : catalog.lookup c.iso key (!c.forceIso) = some text) :
    runTranslate read c =
      let answer := Registry.builtin.expand (some text) c.alt (some (paramsOfTyped c.params))
      ⟨if answer.isSome then codeOk else codeData,
        if c.json then jsonLines (.object [("result", jsonOfText? answer)])
        else String.join (answer.toList.map line), ""⟩ := by
  have hempty : key.isEmpty = false := by simpa using hkey
  have htranslated : translated c catalog =
      Registry.builtin.expand (some text) c.alt (some (paramsOfTyped c.params)) := by
    rw [translated, hsubject]
    simp only [Localizer.get, Localizer.ofCatalog, requestOf, hempty, hlookup]
    rfl
  simp only [runTranslate, hload, htranslated]

/-- A key whose text expands is answered with the expansion, and not with the alternative. -/
theorem runTranslate_of_tryExpand {c : TranslateCommand} {catalog : Catalog}
    {key text expanded : String} (hload : Catalog.load read c.catalog = .ok catalog)
    (hsubject : c.subject = .key key) (hkey : key ≠ "")
    (hlookup : catalog.lookup c.iso key (!c.forceIso) = some text)
    (hexpand : Registry.builtin.tryExpand text (paramsOfTyped c.params) = .ok expanded) :
    runTranslate read c = answered c.json expanded := by
  rw [runTranslate_of_lookup hload hsubject hkey hlookup, Registry.expand_eq_of_tryExpand, hexpand]
  simp [answered, jsonOfText?]

/-- A check ends well just when every file loads and no text of it has findings; it says of each
file what it says of the file alone, so a file that fails hides nothing. If it ends well, then each
key of a checked file that has a text is found, and is answered with the expansion of what is found,
whatever the parameters and the alternative; and that expansion gives no warning about the clauses
of the text. -/
theorem check_then_translate (read : FileReader) (c : CheckCommand) :
    ((runCheck read c).code = codeOk ↔
      ∀ path ∈ c.files, ∃ catalog, Catalog.load read path = .ok catalog ∧
        catalog.Clean Registry.builtin) ∧
    ((runCheck read c).errors =
        String.join (c.files.map fun path => (runCheck read ⟨[path], c.json⟩).errors) ∧
      (runCheck read c).output =
        if c.json then jsonLines (.array (c.files.flatMap (findingsOf read)))
        else String.join (c.files.map fun path => (runCheck read ⟨[path], c.json⟩).output)) ∧
    ((runCheck read c).code = codeOk → ∀ path ∈ c.files,
      ∃ catalog, Catalog.load read path = .ok catalog ∧
        ∀ key, key ≠ "" → catalog.Translates key →
          ∃ text, catalog.lookup none key true = some text ∧
            ∀ params, ∃ expanded warnings,
              (Template.parse text).evaluate Registry.builtin (paramsOfTyped params) =
                (.ok expanded, warnings) ∧
              (∀ block index fault, .malformedClause block index fault ∉ warnings) ∧
              (∀ block name, .unknownModifier block name ∉ warnings) ∧
              ∀ alt json, runTranslate read ⟨path, .key key, none, false, alt, params, json⟩ =
                answered json expanded) := by
  obtain ⟨files, json⟩ := c
  refine ⟨code_runCheck_eq_ok_iff, ⟨errors_runCheck files json, ?_⟩, fun hcode path hpath => ?_⟩
  · cases json with
    | false => exact output_runCheck files
    | true => exact output_runCheck_json files
  · obtain ⟨catalog, hload, hclean⟩ := code_runCheck_eq_ok_iff.mp hcode path hpath
    refine ⟨catalog, hload, fun key hkey htranslates => ?_⟩
    obtain ⟨text, hlookup⟩ := Catalog.exists_lookup_eq_some htranslates
    refine ⟨text, hlookup, fun params => ?_⟩
    obtain ⟨expanded, warnings, hevaluate, hclauses, hmodifiers⟩ :=
      Registry.evaluate_of_lint_eq_nil (hclean.lint_of_lookup hlookup) (paramsOfTyped params)
    refine ⟨expanded, warnings, hevaluate, hclauses, hmodifiers, fun alt json => ?_⟩
    have hexpand : Registry.builtin.tryExpand text (paramsOfTyped params) = .ok expanded :=
      congrArg Prod.fst hevaluate
    exact runTranslate_of_tryExpand hload rfl hkey hlookup hexpand

set_option maxRecDepth 20000 in
/-- A check and a translation with a catalog whose fallback dictionary has the text of a key that is
empty in the base dictionary. -/
theorem check_then_translate_fallback :
    let read : FileReader := fun _ => .ok
      ("\x7b\"base\":\x7b\"translations\":\x7b\"bye\":\"\"\x7d\x7d," ++
        "\"fallback\":\x7b\"translations\":\x7b\"bye\":\"@\x7bvar=n\x7d!\"\x7d\x7d\x7d")
    let catalog : Catalog := ⟨some ⟨none, none, Keyed.ofList [("bye", "")]⟩,
      some ⟨none, none, Keyed.ofList [("bye", "@\x7bvar=n\x7d!")]⟩⟩
    (runCheck read ⟨["a.json"], false⟩).code = codeOk ∧
      Catalog.load read "a.json" = .ok catalog ∧ "bye" ≠ "" ∧ catalog.Translates "bye" ∧
      ∀ alt json, runTranslate read ⟨"a.json", .key "bye", none, false, alt, [("n", "3")], json⟩ =
        answered json "3!" := by
  intro read catalog
  have hread : read "a.json" = .ok
      ("\x7b\"base\":\x7b\"translations\":\x7b\"bye\":\"\"\x7d\x7d," ++
        "\"fallback\":\x7b\"translations\":\x7b\"bye\":\"@\x7bvar=n\x7d!\"\x7d\x7d\x7d") := rfl
  have hload : Catalog.load read "a.json" = .ok catalog := by
    rw [Catalog.load, hread]
    rfl
  have hcode : (runCheck read ⟨["a.json"], false⟩).code = codeOk := by
    simp only [runCheck, List.map_cons, List.map_nil, checkFile, hload]
    decide +kernel
  have hkey : "bye" ≠ "" := by decide
  have htranslates : catalog.Translates "bye" := by
    refine ⟨.fallback, _, "@\x7bvar=n\x7d!", rfl, ?_, by decide⟩
    decide +kernel
  refine ⟨hcode, hload, hkey, htranslates, fun alt json => ?_⟩
  obtain ⟨loaded, hloaded, hkeys⟩ :=
    (check_then_translate read ⟨["a.json"], false⟩).2.2 hcode "a.json" List.mem_cons_self
  obtain rfl : catalog = loaded := Except.ok.inj (hload.symm.trans hloaded)
  obtain ⟨text, hlookup, hparams⟩ := hkeys "bye" hkey htranslates
  obtain ⟨expanded, warnings, hevaluate, -, -, htranslate⟩ := hparams [("n", "3")]
  have hfound : catalog.lookup none "bye" true = some "@\x7bvar=n\x7d!" := by decide +kernel
  obtain rfl : text = "@\x7bvar=n\x7d!" := Option.some.inj (hlookup.symm.trans hfound)
  have hshown : ((Template.parse "@\x7bvar=n\x7d!").evaluate Registry.builtin
      (paramsOfTyped [("n", "3")])).1 = .ok "3!" := by decide +kernel
  rw [hevaluate] at hshown
  obtain rfl : expanded = "3!" := Except.ok.inj hshown
  exact htranslate alt json

end Phrasebook.Command
