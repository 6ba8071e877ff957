import Phrasebook.Block
import Phrasebook.Clause
import Phrasebook.Proofs.Text.Toolkit

/-!
# Splitters made of readers

The content of a block, its logic and the clauses of the logic are split by readers that repeat an
element between separators (`Toolkit.sections`, `Toolkit.pieces`), and where such a reader gave no
parts, a fallback would stand in for them. It never does. With any toolkit that replies as
documented, both readers split every text leftmost and leave nothing of it (`read_eq_done`): the
element declines nowhere, and a separator that is there is never empty. So the parts are those of
the splitters without readers, whatever the fallback is (`splitters_lose_nothing`).
-/

namespace Phrasebook

open Text (FirstIn LeftmostSplit Reader Reply Separated Toolkit splitBars leftmostSplit_splitBars
  leftmostSplit_splitOn)

/-! ### The readers -/

/-- The reader of the pieces of a text between a character, empty ones kept. -/
def Text.Toolkit.pieces (t : Toolkit) (sep : Char) : Reader (List (List Char)) :=
  t.separated (t.takeTill sep) (t.literal [sep])

/-- The reader of the sections of a block's content, empty ones kept. -/
def Text.Toolkit.sections (t : Toolkit) : Reader (List (List Char)) :=
  t.separated (t.alt (t.takeUntil Sections.separator.toList) t.rest)
    (t.literal Sections.separator.toList)

/-- What the sections of a block's content contribute, with a fallback for the sections. -/
def Sections.readContent (t : Toolkit) (fallback : List (List Char)) (content : String) :
    Sections :=
  (((t.sections.read content.toList).getD fallback).map ofSection).foldl followedBy empty

/-- The clauses of logic, with a fallback for their texts. -/
def Clause.readDrafts (t : Toolkit) (fallback : List (List Char)) (logic : String) : List Draft :=
  (((t.pieces separator).read (unmark logic.toList)).getD fallback).map Draft.parse

/-- The fields of a clause, the last one first, with a fallback for its pieces. -/
def Clause.readFields (t : Toolkit) (fallback : List (List Char)) (clause : List Char) :
    List (Field × List Char) :=
  (((t.pieces fieldSeparator).read clause).getD fallback).foldl addPiece []

/-! ### Reading between separators -/

/-- An element that is read up to the next separator, or to the end where there is none. -/
structure ReadsUpTo (separator : List Char) (element : Reader (List Char)) : Prop where
  before {before after : List Char} : FirstIn separator before after →
    element.read (before ++ (separator ++ after)) = .done before (separator ++ after)
  whole {cs : List Char} : ¬ separator <:+: cs → element.read cs = .done cs []

namespace Text.Toolkit.Documented

variable {t : Toolkit}

/-- Repeated between separators, an element that is read up to the next one splits the text leftmost
and leaves nothing of it. -/
theorem read_eq_done (h : t.Documented) {separator cs : List Char} {element : Reader (List Char)}
    {parts : List (List Char)} (hne : separator ≠ []) (helement : ReadsUpTo separator element)
    (hparts : LeftmostSplit separator cs parts) :
    (t.separated element (t.literal separator)).read cs = .done parts [] := by
  refine h.separated ?_
  -- each cut is one round of the repetition, and the end of the text declines the next separator
  induction hparts with
  | whole hwhole =>
    have hend : (t.literal separator).read [] = .declined :=
      h.literal_of_not_prefix fun hbegins => hne (List.prefix_nil.mp hbegins)
    exact .last (helement.whole hwhole) hend
  | @cut before after parts hfirst _ ih =>
    have hbehind : after ≠ separator ++ after := fun heq => hne (List.self_eq_append_left.mp heq)
    exact .further (helement.before hfirst) (h.literal_of_prefix separator after) hbehind ih

/-- A piece is read up to the next separator. -/
theorem readsUpTo_takeTill (h : t.Documented) (sep : Char) :
    ReadsUpTo [sep] (t.takeTill sep) where
  before {before after} hfirst := by
    have hno : sep ∉ before := fun hmem =>
      hfirst.not_infix (List.cons_ne_nil _ _) ((List.singleton_infix_iff sep before).mpr hmem)
    rw [h.takeTill, List.singleton_append, Text.takeWhile_ne_append_cons hno,
      Text.dropWhile_ne_append_cons hno]
  whole {cs} hwhole := by
    have hno : sep ∉ cs := fun hmem => hwhole ((List.singleton_infix_iff sep cs).mpr hmem)
    rw [h.takeTill, Text.takeWhile_ne_of_not_mem hno, Text.dropWhile_ne_of_not_mem hno]

/-- A section is read up to the next separator, and the last one by the second of two readers. -/
theorem readsUpTo_alt (h : t.Documented) (separator : List Char) :
    ReadsUpTo separator (t.alt (t.takeUntil separator) t.rest) where
  before hfirst := by
    have hfound := h.takeUntil_of_first hfirst
    rw [h.alt_of_not_declined (by simp [hfound]), hfound]
  whole hwhole := by
    rw [h.alt_of_declined (h.takeUntil_of_absent hwhole), h.rest]

/-- The pieces that are read are those between the separators, and the whole text is read. -/
theorem read_pieces (h : t.Documented) (sep : Char) (cs : List Char) :
    (t.pieces sep).read cs = .done (cs.splitOn sep) [] :=
  h.read_eq_done (List.cons_ne_nil _ _) (h.readsUpTo_takeTill sep) (leftmostSplit_splitOn sep cs)

/-- The sections that are read are those between the double bars, and the whole text is read. -/
theorem read_sections (h : t.Documented) (cs : List Char) :
    t.sections.read cs = .done (splitBars cs) [] :=
  h.read_eq_done (by decide) (h.readsUpTo_alt _) (leftmostSplit_splitBars cs)

end Text.Toolkit.Documented

/-! ### Nothing is lost -/

/-- With readers that reply as documented, both splitters split every text and leave nothing of it.
The parts, of which there is at least one, are the text again when they are joined with the
separator, and no part holds the separator; of the sections only the last can end with a bar. So the
sections of a block, its clauses and their fields are what they are without readers, and no fallback
ever stands in for the parts. -/
theorem splitters_lose_nothing {t : Toolkit} (h : t.Documented) :
    (∀ sep cs, ∃ parts, (t.pieces sep).read cs = .done parts [] ∧ parts ≠ [] ∧
      [sep].intercalate parts = cs ∧ ∀ part ∈ parts, sep ∉ part) ∧
    (∀ cs, ∃ parts, t.sections.read cs = .done parts [] ∧ parts ≠ [] ∧
      Sections.separator.toList.intercalate parts = cs ∧
      (∀ part ∈ parts, ¬ Sections.separator.toList <:+: part) ∧
      ∀ part ∈ parts.dropLast, part.getLast? ≠ some '|') ∧
    ∀ fallback,
      (∀ content, Sections.readContent t fallback content = Sections.ofContent content) ∧
      (∀ logic, Clause.readDrafts t fallback logic = Clause.drafts logic) ∧
      ∀ clause, Clause.readFields t fallback clause = Clause.fields clause := by
  refine ⟨fun sep cs => ?_, fun cs => ?_, fun fallback => ⟨fun content => ?_, fun logic => ?_,
    fun clause => ?_⟩⟩
  · exact ⟨cs.splitOn sep, h.read_pieces sep cs, List.splitOn_ne_nil sep cs,
      (leftmostSplit_splitOn sep cs).intercalate_eq, fun _ => Text.not_mem_of_mem_splitOn⟩
  · have hsplit := leftmostSplit_splitBars cs
    refine ⟨splitBars cs, h.read_sections cs, hsplit.ne_nil, hsplit.intercalate_eq,
      hsplit.not_infix_of_mem (List.cons_ne_nil _ _), fun part hpart => ?_⟩
    obtain ⟨after, hfirst⟩ := hsplit.firstIn_of_mem_dropLast part hpart
    exact hfirst.getLast?_ne_bar
  · rw [Sections.readContent, h.read_sections]
    rfl
  · rw [Clause.readDrafts, h.read_pieces]
    rfl
  · rw [Clause.readFields, h.read_pieces]
    rfl

/-- Five bars and two letters, read with the plain toolkit: the third bar begins a section and the
last section is empty. -/
theorem splitters_lose_nothing_plain :
    let cs := "a|||b||".toList
    let parts := ["a".toList, "|b".toList, []]
    Toolkit.plain.Documented ∧ Toolkit.plain.sections.read cs = .done parts [] ∧
      "||".toList.intercalate parts = cs ∧ (∀ part ∈ parts, ¬ "||".toList <:+: part) ∧
      (∀ part ∈ parts.dropLast, part.getLast? ≠ some '|') ∧
      Sections.readContent .plain [] "a|||b||" = Sections.ofContent "a|||b||" := by
  intro cs parts
  have hdocumented := Toolkit.plain_documented
  obtain ⟨-, hsections, hsame⟩ := splitters_lose_nothing hdocumented
  obtain ⟨found, hread, -, hjoined, hseparator, hends⟩ := hsections cs
  have hparts : Toolkit.plain.sections.read cs = .done parts [] :=
    (hdocumented.read_sections cs).trans (by decide +kernel)
  obtain rfl : found = parts := by
    rw [hparts] at hread
    exact (Reply.done.inj hread).1.symm
  exact ⟨hdocumented, hread, hjoined, hseparator, hends, (hsame []).1 _⟩

end Phrasebook
