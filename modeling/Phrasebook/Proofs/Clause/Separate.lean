import Phrasebook.Proofs.Clause.Written

/-!
# Clauses are read one by one

Logic falls into clauses at its semicolons, and each clause is read from its own piece of the logic.
What could join them is the mark at the front: whether it is dropped depends on the first equals
sign after it, which may stand in a later clause. It does not, since the key before that equals sign
would then hold a semicolon, and no key of a field does (`looksLikeField_append_separator`). So the
mark is dropped from the first piece alone (`unmark_append_separator`), and text put after a
semicolon adds its own clauses to the ones before it (`drafts_append_separator`).
-/

namespace Phrasebook

open Text (trim trimStart trimEnd isBlank)

namespace Text

/-! ### Trimming and characters that are not blank -/

variable {c : Char}

/-- Trimming at the front stops at a character that is not blank. -/
theorem trimStart_append_cons (h : isBlank c = false) (xs ys : List Char) :
    trimStart (xs ++ c :: ys) = trimStart xs ++ c :: ys :=
  dropWhile_append_stop h xs ys

/-- Trimming at both ends stops at a character that is not blank. -/
theorem trim_append_cons (h : isBlank c = false) (xs ys : List Char) :
    trim (xs ++ c :: ys) = trimStart xs ++ c :: trimEnd ys := by
  unfold trim
  rw [trimStart_append_cons h, trimEnd, List.reverse_append, List.reverse_cons, List.append_assoc,
    List.singleton_append, dropWhile_append_stop h, List.reverse_append, List.reverse_cons,
    List.reverse_reverse, List.append_assoc, List.singleton_append, trimEnd]

/-- Leaving out blanks at the front keeps every character that is not blank. -/
theorem mem_dropWhile_of_not_blank (h : isBlank c = false) {cs : List Char} (hmem : c ∈ cs) :
    c ∈ cs.dropWhile isBlank := by
  rw [← List.takeWhile_append_dropWhile (p := isBlank) (l := cs), List.mem_append] at hmem
  rcases hmem with hmem | hmem
  · have hblank : isBlank c = true := List.mem_takeWhile_imp hmem
    rw [h] at hblank
    cases hblank
  · exact hmem

/-- Trimming keeps every character that is not blank. -/
theorem mem_trim_of_not_blank (h : isBlank c = false) {cs : List Char} (hmem : c ∈ cs) :
    c ∈ trim cs := by
  have hstart : c ∈ trimStart cs := mem_dropWhile_of_not_blank h hmem
  exact List.mem_reverse.mpr (mem_dropWhile_of_not_blank h (List.mem_reverse.mpr hstart))

end Text

namespace Clause

/-! ### The mark and the first separator -/

/-- The separator of clauses is not blank, so no trimming removes it. -/
theorem isBlank_separator : isBlank separator = false := by decide

/-- A text without the separator begins a text exactly when it begins the part before it. -/
theorem prefix_append_separator_iff {pattern xs ys : List Char} (h : separator ∉ pattern) :
    pattern <+: xs ++ separator :: ys ↔ pattern <+: xs := by
  constructor
  · rintro ⟨rest, heq⟩
    rcases List.append_eq_append_iff.mp heq with ⟨inside, hxs, -⟩ | ⟨inside, hpattern, htail⟩
    · exact ⟨inside, hxs.symm⟩
    · cases inside with
      | nil => exact ⟨[], by rw [hpattern, List.append_nil, List.append_nil]⟩
      | cons d inside =>
        obtain ⟨rfl, -⟩ := List.cons.inj htail
        exact absurd (by rw [hpattern]; simp) h
  · intro hbegins
    exact hbegins.trans (List.prefix_append _ _)

/-- A piece is recognised as a field before its first separator, if at all. -/
theorem looksLikeField_append_separator {xs ys : List Char} :
    Written.LooksLikeField (xs ++ separator :: ys) ↔ Written.LooksLikeField xs := by
  constructor
  · rintro ⟨key, content, heq, hno, hkey⟩
    rcases List.append_eq_append_iff.mp heq with ⟨inside, hkeyeq, htail⟩ | ⟨inside, hxs, htail⟩
    · -- the equals sign stands after the separator, which is then a part of the key
      have hmem : separator ∈ key := by
        cases inside with
        | nil => exact absurd (List.cons.inj htail).1 (by decide)
        | cons d inside =>
          obtain ⟨rfl, -⟩ := List.cons.inj htail
          rw [hkeyeq]
          simp
      have htrim : separator ∈ (String.ofList (trim key)).toList := by
        rw [String.toList_ofList]
        exact Text.mem_trim_of_not_blank isBlank_separator hmem
      have hnone : ∀ name ∈ ["mod", "modi", "val", "text"], separator ∉ name.toList := by decide
      exact absurd htrim (hnone _ hkey)
    · cases inside with
      | nil => exact absurd (List.cons.inj htail).1 (by decide)
      | cons d inside =>
        obtain ⟨rfl, -⟩ := List.cons.inj htail
        exact ⟨key, inside, hxs, hno, hkey⟩
  · rintro ⟨key, content, rfl, hno, hkey⟩
    exact ⟨key, content ++ separator :: ys, by simp, hno, hkey⟩

/-- Whether the mark is dropped is decided before the first separator. -/
theorem unmark_append_separator (xs ys : List Char) :
    unmark (xs ++ separator :: ys) = unmark xs ++ separator :: ys := by
  have hbegins : mark <+: trimStart (xs ++ separator :: ys) ↔ mark <+: trimStart xs := by
    rw [Text.trimStart_append_cons isBlank_separator]
    exact prefix_append_separator_iff (by decide)
  unfold unmark
  by_cases hmark : mark <+: trimStart xs
  · have hdrop : (trimStart (xs ++ separator :: ys)).drop mark.length =
        (trimStart xs).drop mark.length ++ separator :: ys := by
      rw [Text.trimStart_append_cons isBlank_separator,
        List.drop_append_of_le_length hmark.length_le]
    simp only [hbegins, hmark, hdrop, true_and, ← Written.looksLikeField_iff,
      looksLikeField_append_separator]
    split <;> rfl
  · simp only [hbegins, hmark, false_and, if_false]

/-! ### The list of clauses -/

/-- Text after a semicolon adds its own clauses, read piece by piece, to those before it. -/
theorem drafts_append_separator (a b : String) :
    drafts (a ++ ";" ++ b) = drafts a ++ (b.toList.splitOn separator).map Draft.parse := by
  have htext : (a ++ ";" ++ b).toList = a.toList ++ separator :: b.toList := by
    simp [separator]
  unfold drafts
  rw [htext, unmark_append_separator, List.splitOn_append_cons_self, List.map_append]

/-- Without the mark, logic holds no further character. -/
theorem unmark_subset (xs : List Char) : unmark xs ⊆ xs := by
  unfold unmark
  split
  · exact fun _ h => (List.dropWhile_sublist _).subset (List.drop_subset _ _ h)
  · exact List.Subset.refl _

/-- The mark is dropped from the first piece of logic, and the other pieces are kept. -/
theorem splitOn_unmark (xs : List Char) :
    (unmark xs).splitOn separator = (xs.splitOn separator).modifyHead unmark := by
  by_cases hmem : separator ∈ xs
  · obtain ⟨before, after, rfl, hbefore⟩ := List.eq_append_cons_of_mem hmem
    have hunmark : separator ∉ unmark before := fun h => hbefore (unmark_subset _ h)
    rw [unmark_append_separator, List.splitOn_append_cons_self_of_not_mem hunmark,
      List.splitOn_append_cons_self_of_not_mem hbefore, List.modifyHead_cons]
  · have hunmark : separator ∉ unmark xs := fun h => hmem (unmark_subset _ h)
    rw [List.splitOn_eq_singleton hunmark, List.splitOn_eq_singleton hmem, List.modifyHead_cons]

/-- The clause at an index is read from the piece there. -/
theorem getElem?_drafts (logic : String) (i : Nat) :
    (drafts logic)[i]? = (logic.toList.splitOn separator)[i]?.map fun piece =>
      Draft.parse (if i = 0 then unmark piece else piece) := by
  unfold drafts
  rw [splitOn_unmark, List.getElem?_map, List.getElem?_modifyHead]
  split
  · rw [Option.map_map]
    rfl
  · rfl

/-- Logic has one clause more than it has separators, empty ones counted. -/
theorem length_drafts (logic : String) :
    (drafts logic).length = logic.toList.count separator + 1 := by
  unfold drafts
  rw [splitOn_unmark, List.length_map, List.length_modifyHead, Text.length_splitOn]

/-! ### Clauses that lack a field -/

/-- The missing fields of a clause are those that it does not have. -/
theorem mem_missing_iff {d : Draft} {field : Field} :
    field ∈ d.missing ↔ d.has field = false := by
  have hall : field ∈ Field.all := by cases field <;> decide
  simp [Draft.missing, hall]

/-- A draft fails to resolve with a fault exactly when it lacks a field and the fault lists what it
lacks. -/
theorem resolve_eq_error_iff {params : Params} {d : Draft} {fault : ClauseFault} :
    d.resolve params = .error fault ↔ d.missing ≠ [] ∧ fault.missing = d.missing := by
  constructor
  · intro h
    obtain ⟨hmissing, rfl⟩ := Draft.of_resolve_eq_error h
    exact ⟨hmissing, rfl⟩
  · rintro ⟨hmissing, hfault⟩
    rw [Draft.resolve_of_missing params hmissing, ← hfault]

/-- Logic is read clause by clause. Text after a semicolon adds the clauses of its own pieces to
those before it, and these stay as they are. So there is one clause more than there are semicolons,
and each is read from the piece at its index, the first one without the mark. Resolved, the clauses
keep their indices; one comes out as a fault exactly when it lacks a field, and the fault lists the
fields that are not there in the order modifier, value, text. -/
theorem drafts_separate :
    (∀ a b : String,
      drafts (a ++ ";" ++ b) = drafts a ++ (b.toList.splitOn separator).map Draft.parse) ∧
    (∀ logic : String,
      (drafts logic).length = logic.toList.count separator + 1 ∧
      ∀ i, (drafts logic)[i]? = (logic.toList.splitOn separator)[i]?.map fun piece =>
        Draft.parse (if i = 0 then unmark piece else piece)) ∧
    (∀ (params : Params) (logic : String),
      (resolveAll params logic).length = (drafts logic).length ∧
      ∀ (i : Nat) (fault : ClauseFault), (resolveAll params logic)[i]? = some (.error fault) ↔
        ∃ d : Draft, (drafts logic)[i]? = some d ∧ d.missing ≠ [] ∧ fault.missing = d.missing) ∧
    (∀ d : Draft, d.missing.Sublist [.modifier, .value, .text] ∧
      ∀ field, field ∈ d.missing ↔ d.has field = false) := by
  refine ⟨drafts_append_separator, fun logic => ⟨length_drafts logic, getElem?_drafts logic⟩,
    fun params logic => ⟨List.length_map _, fun i fault => ?_⟩,
    fun d => ⟨List.filter_sublist, fun field => mem_missing_iff⟩⟩
  unfold resolveAll
  rw [List.getElem?_map, Option.map_eq_some_iff]
  constructor
  · rintro ⟨d, hd, hresolve⟩
    exact ⟨d, hd, resolve_eq_error_iff.mp hresolve⟩
  · rintro ⟨d, hd, hmissing⟩
    exact ⟨d, hd, resolve_eq_error_iff.mpr hmissing⟩

/-- A mark with blanks before it, an empty clause, and a first clause without an equals sign, where
the one in the second clause does not make the mark disappear. -/
example :
    drafts " modi=mod=a:text=;;val=1" =
      [⟨some "a", none, some ""⟩, ⟨none, none, none⟩, ⟨none, some (.literal "1"), none⟩] ∧
    drafts "modi=a;mod=b" = [⟨some "a", none, none⟩, ⟨some "b", none, none⟩] := by
  decide +kernel

end Clause

end Phrasebook
