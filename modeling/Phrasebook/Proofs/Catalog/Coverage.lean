import Mathlib.Data.List.Forall2
import Phrasebook.Catalog
import Phrasebook.Command.Execution
import Phrasebook.Proofs.Catalog.Clean

/-!
# Coverage and look-ups

The keys of a catalog are those of its dictionaries, each once (`Catalog.mem_keys_iff`). Of these
the coverage of a dictionary lists the ones for which the dictionary has no text, and counts the
others; they are just the keys under which a text of the dictionary stands that is not empty
(`filter_keys_perm`), so the count can be had from the dictionary alone
(`Catalog.coverage_describes`). Look-ups without a language, which go from one dictionary to the
next, fail where the listed keys say so (`lookup_base_eq_none_iff`, `lookup_eq_none_iff`).
-/

namespace Phrasebook

namespace Keyed

variable {α : Type}

/-- The keys of a mapping ascend. -/
theorem keys_ascending (m : Keyed α) : m.keys.Pairwise (· < ·) :=
  List.pairwise_map.mpr m.ascending

/-- The keys of a mapping made from pairs are those of the pairs. -/
theorem mem_keys_ofList {pairs : List (String × α)} {key : String} :
    key ∈ (ofList pairs).keys ↔ ∃ value, (key, value) ∈ pairs := by
  rw [mem_keys_iff, get?_ofList, List.lookup_isSome_iff]
  simp

end Keyed

/-- Of keys that ascend none occurs twice. -/
theorem nodup_of_ascending {keys : List String} (h : keys.Pairwise (· < ·)) : keys.Nodup := by
  refine h.imp fun {a b} hlt heq => ?_
  rw [heq] at hlt
  exact String.lt_irrefl b hlt

/-- The texts of a dictionary that are not empty, with their keys. -/
def Dictionary.texts (d : Dictionary) : List (String × String) :=
  d.translations.entries.filter fun (_, text) => text ≠ ""

/-- A text is among those of a dictionary just when it is found under its key. -/
theorem Dictionary.mem_texts_iff {d : Dictionary} {key text : String} :
    (key, text) ∈ d.texts ↔ d.get? key = some text := by
  rw [texts, List.mem_filter, ← Keyed.get?_eq_some_iff, get?_eq_some_iff]
  simp

/-- The coverage of a dictionary: it lists in ascending order those keys of the catalog for which
the dictionary has no text, counts the texts of the dictionary, and accounts for all keys. -/
structure Coverage.Describes (e : Coverage) (c : Catalog) (role : Role) (d : Dictionary) :
    Prop where
  role_eq : e.role = role
  iso_eq : e.iso = d.iso
  missing_ascending : e.missing.Pairwise (· < ·)
  mem_missing_iff : ∀ key, key ∈ e.missing ↔ key ∈ c.keys ∧ d.get? key = none
  translated_eq : e.translated = d.texts.length
  translated_add_missing : e.translated + e.missing.length = c.keys.length

namespace Catalog

variable {c : Catalog} {d : Dictionary} {role : Role} {key : String}

/-! ### Keys -/

/-- The keys of a catalog ascend. -/
theorem keys_ascending (c : Catalog) : c.keys.Pairwise (· < ·) :=
  Keyed.keys_ascending _

/-- A key of a catalog is a key of one of its dictionaries. -/
theorem mem_keys_iff :
    key ∈ c.keys ↔ ∃ role d, c.dictionary? role = some d ∧ key ∈ d.translations.keys := by
  rw [keys, Keyed.mem_keys_ofList]
  constructor
  · rintro ⟨text, hmem⟩
    obtain ⟨⟨role, d⟩, hd, htext⟩ := List.mem_flatMap.mp hmem
    exact ⟨role, d, mem_dictionaries_iff.mp hd, List.mem_map_of_mem htext⟩
  · rintro ⟨role, d, hd, hkey⟩
    obtain ⟨⟨key, text⟩, htext, rfl⟩ := List.mem_map.mp hkey
    exact ⟨text, List.mem_flatMap.mpr ⟨(role, d), mem_dictionaries_iff.mpr hd, htext⟩⟩

/-- A key for which a dictionary has a text is a key of the catalog. -/
theorem mem_keys_of_get? (hd : c.dictionary? role = some d) {text : String}
    (h : d.get? key = some text) : key ∈ c.keys := by
  refine mem_keys_iff.mpr ⟨role, d, hd, Keyed.mem_keys_iff.mpr ?_⟩
  rw [(Dictionary.get?_eq_some_iff.mp h).1]
  rfl

/-! ### The coverage of a dictionary -/

/-- The keys for which a dictionary has a text are those of its texts. -/
theorem filter_keys_perm (hd : c.dictionary? role = some d) :
    (c.keys.filter fun key => (d.get? key).isSome).Perm (d.texts.map Prod.fst) := by
  have hkeys : (c.keys.filter fun key => (d.get? key).isSome).Nodup :=
    (nodup_of_ascending c.keys_ascending).filter _
  have htexts : (d.texts.map Prod.fst).Nodup :=
    nodup_of_ascending (List.pairwise_map.mpr (d.translations.ascending.filter _))
  refine (List.perm_ext_iff_of_nodup hkeys htexts).mpr fun key => ?_
  rw [List.mem_filter, List.mem_map]
  constructor
  · rintro ⟨-, hsome⟩
    obtain ⟨text, htext⟩ := Option.isSome_iff_exists.mp hsome
    exact ⟨(key, text), Dictionary.mem_texts_iff.mpr htext, rfl⟩
  · rintro ⟨⟨key, text⟩, hmem, rfl⟩
    have htext := Dictionary.mem_texts_iff.mp hmem
    exact ⟨mem_keys_of_get? hd htext, Option.isSome_iff_exists.mpr ⟨text, htext⟩⟩

/-- The missing keys of a dictionary are the keys of the catalog for which it has no text. -/
theorem mem_missingIn_iff : key ∈ c.missingIn d ↔ key ∈ c.keys ∧ d.get? key = none := by
  rw [missingIn, List.mem_filter, Option.isNone_iff_eq_none]

/-- The texts of a dictionary and the keys that it lacks account for all keys. -/
theorem length_texts_add_missingIn (hd : c.dictionary? role = some d) :
    d.texts.length + (c.missingIn d).length = c.keys.length := by
  have hlength := (filter_keys_perm hd).length_eq
  rw [List.length_map] at hlength
  rw [← hlength, missingIn, ← List.countP_eq_length_filter, ← List.countP_eq_length_filter,
    List.length_eq_countP_add_countP fun key => (d.get? key).isSome]
  refine congrArg _ (List.countP_congr fun key _ => ?_)
  simp

/-- The dictionaries that are there are covered one by one, the base first. -/
theorem coverage_describes (c : Catalog) :
    List.Forall₂ (fun (role, d) e => Coverage.Describes e c role d)
      (c.base.toList.map (Prod.mk .base) ++ c.fallback.toList.map (Prod.mk .fallback))
      c.coverage := by
  have hdictionaries : c.base.toList.map (Prod.mk .base) ++
      c.fallback.toList.map (Prod.mk .fallback) = c.dictionaries := by
    obtain ⟨base, fallback⟩ := c
    cases base <;> cases fallback <;> rfl
  rw [hdictionaries, coverage, List.forall₂_map_right_iff, List.forall₂_same]
  rintro ⟨role, d⟩ hmem
  have hlength := length_texts_add_missingIn (mem_dictionaries_iff.mp hmem)
  exact {
    role_eq := rfl
    iso_eq := rfl
    missing_ascending := c.keys_ascending.filter _
    mem_missing_iff := fun key => mem_missingIn_iff
    translated_eq := Nat.sub_eq_of_eq_add hlength.symm
    translated_add_missing := Nat.sub_add_cancel (List.length_filter_le _ _) }

/-- The coverage of a catalog has one entry for each dictionary that it has. -/
theorem mem_coverage_iff {e : Coverage} :
    e ∈ c.coverage ↔ ∃ role d, c.dictionary? role = some d ∧
      e = ⟨role, d.iso, c.keys.length - (c.missingIn d).length, c.missingIn d⟩ := by
  simp only [coverage, List.mem_map, Prod.exists, mem_dictionaries_iff, eq_comm]

/-! ### Look-ups -/

/-- A look-up without the fallback fails just when the base dictionary, if there is one, has no text
for the key. -/
theorem lookup_base_eq_none_iff :
    c.lookup none key false = none ↔ ∀ d, c.base = some d → d.get? key = none := by
  simp [lookup, Dictionary.speaks]

/-- A look-up in both dictionaries fails if none of those that are there has a text. -/
theorem lookup_eq_none_iff :
    c.lookup none key true = none ↔ ∀ role d, c.dictionary? role = some d → d.get? key = none := by
  have hroles : (∀ role d, c.dictionary? role = some d → d.get? key = none) ↔
      (∀ d, c.base = some d → d.get? key = none) ∧
        ∀ d, c.fallback = some d → d.get? key = none :=
    ⟨fun h => ⟨h .base, h .fallback⟩, fun h role => by cases role; exacts [h.1, h.2]⟩
  rw [hroles]
  simp [lookup, Dictionary.speaks]

/-- The coverage of all dictionaries lists a key if none of them has a text for it. -/
theorem forall_mem_missing_iff (hkey : key ∈ c.keys) :
    (∀ e ∈ c.coverage, key ∈ e.missing) ↔
      ∀ role d, c.dictionary? role = some d → d.get? key = none := by
  constructor
  · intro h role d hd
    exact (mem_missingIn_iff.mp (h _ (mem_coverage_iff.mpr ⟨role, d, hd, rfl⟩))).2
  · intro h e he
    obtain ⟨role, d, hd, rfl⟩ := mem_coverage_iff.mp he
    exact mem_missingIn_iff.mpr ⟨hkey, h role d hd⟩

/-- The coverage of the base dictionary lists a key if that dictionary is there and has no text for
it. -/
theorem exists_base_missing_iff (hkey : key ∈ c.keys) :
    (∃ e ∈ c.coverage, e.role = .base ∧ key ∈ e.missing) ↔
      ∃ d, c.base = some d ∧ d.get? key = none := by
  constructor
  · rintro ⟨e, he, hrole, hmem⟩
    obtain ⟨role, d, hd, rfl⟩ := mem_coverage_iff.mp he
    obtain rfl : role = .base := hrole
    exact ⟨d, hd, (mem_missingIn_iff.mp hmem).2⟩
  · rintro ⟨d, hd, hnone⟩
    exact ⟨_, mem_coverage_iff.mpr ⟨.base, d, hd, rfl⟩, rfl,
      mem_missingIn_iff.mpr ⟨hkey, hnone⟩⟩

/-- The coverage of some dictionary lists keys if it lacks a key of the catalog. -/
theorem any_missing_iff :
    (c.coverage.any fun e => !e.missing.isEmpty) = true ↔
      ∃ role d key, c.dictionary? role = some d ∧ key ∈ c.keys ∧ d.get? key = none := by
  rw [List.any_eq_true]
  constructor
  · rintro ⟨e, he, hmissing⟩
    obtain ⟨role, d, hd, rfl⟩ := mem_coverage_iff.mp he
    obtain ⟨key, hkey⟩ := List.exists_mem_of_ne_nil (c.missingIn d) (by simpa using hmissing)
    exact ⟨role, d, key, hd, mem_missingIn_iff.mp hkey⟩
  · rintro ⟨role, d, key, hd, hkey⟩
    refine ⟨_, mem_coverage_iff.mpr ⟨role, d, hd, rfl⟩, ?_⟩
    have hne := List.ne_nil_of_mem (mem_missingIn_iff.mpr hkey)
    simpa using hne

end Catalog

end Phrasebook

/-! ### The command that reports the coverage

The coverage of a catalog, the look-ups in it and the code of the command that reports the coverage
are worked out apart from each other. They say the same about every key of the catalog
(`coverage_agrees_with_lookup`).
-/

namespace Phrasebook.Command

/-- A report of coverage ends ill just when it is strict and a dictionary lacks a key. -/
theorem code_runCoverage_ne_ok_iff {read : FileReader} {path : String} {strict json : Bool}
    {c : Catalog} (h : Catalog.load read path = .ok c) :
    (runCoverage read ⟨path, strict, json⟩).code ≠ codeOk ↔
      strict = true ∧ ∃ role d key, c.dictionary? role = some d ∧ key ∈ c.keys ∧
        d.get? key = none := by
  have hcode : (runCoverage read ⟨path, strict, json⟩).code =
      if strict && c.coverage.any (fun e => !e.missing.isEmpty) then codeData else codeOk := by
    simp only [runCoverage, h]
  have hdata : codeData ≠ codeOk := by decide
  rw [hcode, ← Catalog.any_missing_iff, ← Bool.and_eq_true]
  cases strict && c.coverage.any fun e => !e.missing.isEmpty with
  | true => simp [hdata]
  | false => simp

/-- The keys of a catalog ascend and are those of its dictionaries. Each dictionary that is there
has a coverage, the base first, which describes it. A look-up of a key without a language fails
in the base dictionary if that one is not there or its coverage lists the key, and in both if all
coverages list the key. A report of the coverage ends ill just when it is strict and a dictionary
lacks a key. -/
theorem coverage_agrees_with_lookup (c : Catalog) :
    (c.keys.Pairwise (· < ·) ∧
      ∀ key, key ∈ c.keys ↔
        ∃ role d, c.dictionary? role = some d ∧ key ∈ d.translations.keys) ∧
    List.Forall₂ (fun (role, d) e => Coverage.Describes e c role d)
      (c.base.toList.map (Prod.mk .base) ++ c.fallback.toList.map (Prod.mk .fallback))
      c.coverage ∧
    (∀ key ∈ c.keys,
      (c.lookup none key false = none ↔
        c.base = none ∨ ∃ e ∈ c.coverage, e.role = .base ∧ key ∈ e.missing) ∧
      (c.lookup none key true = none ↔ ∀ e ∈ c.coverage, key ∈ e.missing)) ∧
    ∀ (read : FileReader) (path : String), Catalog.load read path = .ok c →
      ∀ strict json, (runCoverage read ⟨path, strict, json⟩).code ≠ codeOk ↔
        strict = true ∧ ∃ role d key, c.dictionary? role = some d ∧ key ∈ c.keys ∧
          d.get? key = none := by
  refine ⟨⟨c.keys_ascending, fun key => Catalog.mem_keys_iff⟩, c.coverage_describes,
    fun key hkey => ⟨?_, ?_⟩, fun read path hload strict json => code_runCoverage_ne_ok_iff hload⟩
  · rw [Catalog.lookup_base_eq_none_iff, Catalog.exists_base_missing_iff hkey]
    cases c.base <;> simp
  · rw [Catalog.lookup_eq_none_iff, Catalog.forall_mem_missing_iff hkey]

set_option maxRecDepth 20000 in
/-- A catalog whose base dictionary has an empty text for a key of the fallback dictionary, and
whose fallback dictionary lacks another key. -/
theorem coverage_agrees_with_lookup_partial :
    let read : FileReader := fun _ => .ok
      ("\x7b\"base\":\x7b\"translations\":\x7b\"bye\":\"\",\"hi\":\"Hi\"\x7d\x7d," ++
        "\"fallback\":\x7b\"translations\":\x7b\"bye\":\"Ciao\"\x7d\x7d\x7d")
    let c : Catalog := ⟨some ⟨none, none, Keyed.ofList [("bye", ""), ("hi", "Hi")]⟩,
      some ⟨none, none, Keyed.ofList [("bye", "Ciao")]⟩⟩
    Catalog.load read "a.json" = .ok c ∧
      c.coverage = [⟨.base, none, 1, ["bye"]⟩, ⟨.fallback, none, 1, ["hi"]⟩] ∧
      c.lookup none "bye" false = none ∧ c.lookup none "bye" true ≠ none ∧
      (runCoverage read ⟨"a.json", true, false⟩).code ≠ codeOk := by
  intro read c
  have hload : Catalog.load read "a.json" = .ok c := by
    have hread : read "a.json" = .ok
        ("\x7b\"base\":\x7b\"translations\":\x7b\"bye\":\"\",\"hi\":\"Hi\"\x7d\x7d," ++
          "\"fallback\":\x7b\"translations\":\x7b\"bye\":\"Ciao\"\x7d\x7d\x7d") := rfl
    rw [Catalog.load, hread]
    rfl
  have hcoverage : c.coverage = [⟨.base, none, 1, ["bye"]⟩, ⟨.fallback, none, 1, ["hi"]⟩] := by
    decide +kernel
  have hkey : "bye" ∈ c.keys := by decide +kernel
  obtain ⟨-, -, hlookup, hcode⟩ := coverage_agrees_with_lookup c
  obtain ⟨hbase, hboth⟩ := hlookup "bye" hkey
  rw [hcoverage] at hbase hboth
  refine ⟨hload, hcoverage, hbase.mpr (.inr ?_), fun hnone => ?_,
    (hcode read "a.json" hload true false).mpr ⟨rfl, .base, _, "bye", rfl, hkey, ?_⟩⟩
  · exact ⟨_, List.mem_cons_self, rfl, List.mem_cons_self⟩
  · exact absurd (hboth.mp hnone ⟨.fallback, none, 1, ["hi"]⟩ (by simp)) (by decide)
  · decide +kernel

end Phrasebook.Command
