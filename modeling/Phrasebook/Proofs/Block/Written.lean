import Phrasebook.Block
import Phrasebook.Proofs.Clause.Written
import Phrasebook.Proofs.Template.Canonical

/-!
# Writing a choice and reading it back

A choice is written as a block of two sections, its reference parameter and its logic
(`WrittenChoice.render`). Reading it goes through three layers: the scanner finds the block, the
sections of its content make it a choice, and the logic falls into clauses. Each layer gives back
what was written if the reference is a plain name and the clauses are legible
(`WrittenChoice.read_render`).
-/

namespace Phrasebook

open Text (splitBars trim)

/-- A choice as its author writes it. -/
structure WrittenChoice where
  reference : String
  clauses : List Clause.Written
  deriving DecidableEq, Repr

namespace WrittenChoice

/-- The section of the clauses. -/
def logic (w : WrittenChoice) : String :=
  "modi=" ++ Clause.Written.renderAll w.clauses

/-- What stands between the braces. -/
def content (w : WrittenChoice) : String :=
  "ref=" ++ w.reference ++ "||" ++ w.logic

/-- The choice as a block of a template. -/
def render (w : WrittenChoice) : String :=
  "@\x7b" ++ w.content ++ "\x7d"

/-- A choice whose written form can be read back. -/
structure Legible (w : WrittenChoice) : Prop where
  reference_ne_empty : w.reference ≠ ""
  reference_trimmed : trim w.reference.toList = w.reference.toList
  no_equals : '=' ∉ w.reference.toList
  no_bar : '|' ∉ w.reference.toList
  no_brace : '\x7d' ∉ w.reference.toList
  no_return : '\r' ∉ w.reference.toList
  no_feed : '\n' ∉ w.reference.toList
  clauses_ne_nil : w.clauses ≠ []
  clauses_legible : ∀ c ∈ w.clauses, c.Legible

/-! ### The block -/

/-- The characters of written logic: the mark, and the clauses after its equals sign. -/
theorem toList_logic (w : WrittenChoice) :
    w.logic.toList = "modi".toList ++ '=' :: (Clause.Written.renderAll w.clauses).toList := by
  simp [logic]

/-- The characters of the written content: the section of the reference, two bars, and the logic. -/
theorem toList_content (w : WrittenChoice) :
    w.content.toList =
      ("ref".toList ++ '=' :: w.reference.toList) ++ '|' :: '|' :: w.logic.toList := by
  simp [content]

/-- The logic of a legible choice is plain, so nothing in it ends a section or the block. -/
theorem plain_logic {w : WrittenChoice} (h : w.Legible) :
    Clause.Written.Plain w.logic.toList := by
  rw [toList_logic, List.append_cons]
  exact (Clause.Written.plain_renderAll h.clauses_legible).append_mark (by decide)

/-- Nothing in the content ends the block. -/
theorem inner_content {w : WrittenChoice} (h : w.Legible) :
    Template.Inner w.content.toList := by
  have hlogic := plain_logic h
  intro c hc
  rw [toList_content, List.append_assoc, List.mem_append, List.cons_append, List.mem_cons,
    List.mem_append, List.mem_cons, List.mem_cons] at hc
  rw [Template.endsContent_eq_false_iff]
  rcases hc with hc | rfl | hc | rfl | rfl | hc
  · have hletter : c = 'r' ∨ c = 'e' ∨ c = 'f' := by simpa using hc
    rcases hletter with rfl | rfl | rfl
    all_goals decide
  · decide
  · refine ⟨?_, ?_, ?_⟩
    · rintro rfl
      exact h.no_brace hc
    · rintro rfl
      exact h.no_feed hc
    · rintro rfl
      exact h.no_return hc
  · decide
  · decide
  · refine ⟨?_, ?_, ?_⟩
    · rintro rfl
      exact hlogic.no_brace hc
    · rintro rfl
      exact hlogic.no_feed hc
    · rintro rfl
      exact hlogic.no_return hc

/-- The scanner finds one block, and it takes up the whole text. -/
theorem parse_render {w : WrittenChoice} (h : w.Legible) :
    Template.parse w.render =
      ⟨[.block ⟨w.content, ⟨0, w.render.utf8ByteSize⟩⟩]⟩ :=
  Template.parse_enclose (inner_content h)

/-! ### The sections -/

/-- The content falls into the section of the reference and the section of the clauses. -/
theorem splitBars_content {w : WrittenChoice} (h : w.Legible) :
    splitBars w.content.toList =
      ["ref".toList ++ '=' :: w.reference.toList, w.logic.toList] := by
  have hbar : '|' ∉ "ref".toList ++ '=' :: w.reference.toList := by
    intro hin
    rw [List.mem_append, List.mem_cons] at hin
    rcases hin with hin | hin | hin
    · exact absurd hin (by decide)
    · exact absurd hin (by decide)
    · exact h.no_bar hin
  have hlast : ("ref".toList ++ '=' :: w.reference.toList).getLast? ≠ some '|' := by
    intro heq
    exact hbar (List.mem_of_getLast? heq)
  have hbars : ¬ ['|', '|'] <:+: "ref".toList ++ '=' :: w.reference.toList := by
    intro hin
    exact hbar (hin.subset List.mem_cons_self)
  rw [toList_content, Text.splitBars_append_bars hlast, Text.splitBars_eq_singleton hbars,
    Text.splitBars_eq_singleton (plain_logic h).no_bars]
  rfl

/-- The first section names the reference parameter. -/
theorem ofSection_reference {w : WrittenChoice} (h : w.Legible) :
    Sections.ofSection ("ref".toList ++ '=' :: w.reference.toList) =
      { Sections.empty with reference := some w.reference } := by
  have hparameter :
      ¬ Sections.parameterMark.toList <:+: "ref".toList ++ '=' :: w.reference.toList := by
    intro hin
    have hreference : "var=".toList <:+: w.reference.toList := by
      simpa [Sections.parameterMark, List.infix_cons_iff, List.cons_prefix_cons] using hin
    exact h.no_equals (hreference.subset (by decide))
  have hmark : Sections.referenceMark.toList <:+: "ref".toList ++ '=' :: w.reference.toList :=
    ⟨[], w.reference.toList, rfl⟩
  have hne : w.reference.toList ≠ [] := by
    simpa using h.reference_ne_empty
  have hassigned : Sections.assigned? ("ref".toList ++ '=' :: w.reference.toList) =
      some w.reference := by
    unfold Sections.assigned?
    simp only [Text.cutAt?_append_cons (show '=' ∉ "ref".toList by decide), h.reference_trimmed,
      h.no_equals, hne, or_self, if_false, String.ofList_toList]
  simp only [Sections.ofSection, if_neg hparameter, if_pos hmark, hassigned]

/-- The second section holds the logic; the equals signs of the clauses keep it from naming a
reference parameter. -/
theorem ofSection_logic {w : WrittenChoice} (h : w.Legible) :
    Sections.ofSection w.logic.toList = { Sections.empty with logic := some w.logic } := by
  have hparameter : ¬ Sections.parameterMark.toList <:+: w.logic.toList :=
    (plain_logic h).no_parameter_mark
  have hmark : Sections.logicMark.toList <:+: w.logic.toList := by
    rw [toList_logic]
    exact ⟨[], (Clause.Written.renderAll w.clauses).toList, rfl⟩
  have hequals : '=' ∈ (Clause.Written.renderAll w.clauses).toList := by
    obtain ⟨field, rest, hkey⟩ :=
      Clause.Written.exists_key_renderAll h.clauses_ne_nil h.clauses_legible
    rw [hkey]
    simp
  have hassigned : Sections.assigned? w.logic.toList = none := by
    unfold Sections.assigned?
    rw [toList_logic]
    simp only [Text.cutAt?_append_cons (show '=' ∉ "modi".toList by decide), hequals, true_or,
      if_true]
  simp only [Sections.ofSection, if_neg hparameter, hassigned, ite_self, if_pos hmark,
    String.ofList_toList]

/-- The written content of a legible choice is read as a choice, with its reference and its logic.
-/
theorem ofContent_content {w : WrittenChoice} (h : w.Legible) :
    BlockKind.ofContent w.content = .ok (.choice w.reference w.logic) := by
  unfold BlockKind.ofContent Sections.ofContent
  rw [splitBars_content h, List.map_cons, List.map_singleton, ofSection_reference h,
    ofSection_logic h]
  rfl

/-! ### Reading back -/

/-- A written choice is read back: one block that takes up the whole text, a choice by the written
reference, and the written clauses in their order. -/
theorem read_render {w : WrittenChoice} (h : w.Legible) :
    Template.parse w.render = ⟨[.block ⟨w.content, ⟨0, w.render.utf8ByteSize⟩⟩]⟩ ∧
    BlockKind.ofContent w.content = .ok (.choice w.reference w.logic) ∧
    Clause.drafts w.logic = w.clauses.map Clause.Written.draft :=
  ⟨parse_render h, ofContent_content h,
    Clause.Written.drafts_renderAll h.clauses_ne_nil h.clauses_legible⟩

/-- Reading back two clauses whose fields stand in different orders, with a mention, and with colons
and equals signs inside a modifier, an operand and a text. -/
theorem read_render_reordered :
    Template.parse "@\x7bref=rôle||modi=text=é: b=c:mod=in:2:val=$n;val= $n x=y:text=:mod=\x7d" =
      ⟨[.block ⟨"ref=rôle||modi=text=é: b=c:mod=in:2:val=$n;val= $n x=y:text=:mod=", ⟨0, 70⟩⟩]⟩ ∧
    BlockKind.ofContent "ref=rôle||modi=text=é: b=c:mod=in:2:val=$n;val= $n x=y:text=:mod=" =
      .ok (.choice "rôle" "modi=text=é: b=c:mod=in:2:val=$n;val= $n x=y:text=:mod=") ∧
    Clause.drafts "modi=text=é: b=c:mod=in:2:val=$n;val= $n x=y:text=:mod=" =
      [⟨some "in:2", some (.parameter "n"), some "é: b=c"⟩,
        ⟨some "", some (.literal " $n x=y"), some ""⟩] :=
  read_render (w := ⟨"rôle",
    [⟨"in:2", .parameter "n", "é: b=c", [.text, .modifier, .value]⟩,
      ⟨"", .literal " $n x=y", "", [.value, .text, .modifier]⟩]⟩)
    ⟨by decide, by decide, by decide, by decide, by decide, by decide, by decide, by decide,
      by decide +kernel⟩

end WrittenChoice

end Phrasebook
