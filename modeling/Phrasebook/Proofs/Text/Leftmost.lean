import Mathlib.Data.List.Infix
import Phrasebook.Proofs.Text.Split

/-!
# Leftmost splits

A text falls apart at a pattern from the left: what stands before the first occurrence is the first
part, and what stands behind it falls apart in the same way (`LeftmostSplit`). Joined with the
pattern the parts are the text again, none of them holds the pattern, and only in the last one can
the pattern begin before its end (`LeftmostSplit.firstIn_of_mem_dropLast`): of three bars in a row
the first two are the separator. Both splitters of the library split leftmost
(`leftmostSplit_splitOn`, `leftmostSplit_splitBars`).
-/

namespace Phrasebook.Text

variable {pattern cs : List Char} {parts : List (List Char)}

/-- A pattern that stands between two texts occurs there for the first time: it begins at no
character of the text before it. -/
def FirstIn (pattern before after : List Char) : Prop :=
  ∀ tail, tail <:+ before → tail ≠ [] → ¬ pattern <+: tail ++ (pattern ++ after)

/-- The parts of a text between the occurrences of a pattern, where each occurrence is the first one
behind those to the left of it. -/
inductive LeftmostSplit (pattern : List Char) : List Char → List (List Char) → Prop
  | whole {cs : List Char} : ¬ pattern <:+: cs → LeftmostSplit pattern cs [cs]
  | cut {before after : List Char} {parts : List (List Char)} : FirstIn pattern before after →
      LeftmostSplit pattern after parts →
      LeftmostSplit pattern (before ++ (pattern ++ after)) (before :: parts)

/-! ### First occurrences -/

/-- A pattern at the front of a text occurs there for the first time. -/
theorem firstIn_nil (pattern after : List Char) : FirstIn pattern [] after :=
  fun _ htail hne => absurd (List.suffix_nil.mp htail) hne

/-- A first occurrence is still the first behind one more character exactly if the pattern does not
begin at that character. -/
theorem firstIn_cons_iff {c : Char} {before after : List Char} :
    FirstIn pattern (c :: before) after ↔
      ¬ pattern <+: c :: (before ++ (pattern ++ after)) ∧ FirstIn pattern before after := by
  constructor
  · intro h
    exact ⟨h _ List.suffix_rfl (List.cons_ne_nil _ _),
      fun tail htail => h tail (htail.trans (List.suffix_cons _ _))⟩
  · rintro ⟨hhere, hlater⟩ tail htail hne
    rcases List.suffix_cons_iff.mp htail with rfl | htail
    · exact hhere
    · exact hlater tail htail hne

/-- What stands before the first occurrence of a pattern does not hold it. -/
theorem FirstIn.not_infix {before after : List Char} (h : FirstIn pattern before after)
    (hne : pattern ≠ []) : ¬ pattern <:+: before := by
  rintro ⟨front, back, rfl⟩
  refine h (pattern ++ back) ⟨front, by simp⟩ (by simp [hne]) ?_
  rw [List.append_assoc]
  exact List.prefix_append _ _

/-- What stands before the first two bars in a row does not end with a bar. -/
theorem FirstIn.getLast?_ne_bar {before after : List Char}
    (h : FirstIn ['|', '|'] before after) : before.getLast? ≠ some '|' := by
  intro hlast
  obtain ⟨front, rfl⟩ := List.getLast?_eq_some_iff.mp hlast
  exact h ['|'] (List.suffix_append _ _) (List.cons_ne_nil _ _) ⟨'|' :: after, rfl⟩

/-! ### The parts of a leftmost split -/

namespace LeftmostSplit

/-- A text has at least one part. -/
theorem ne_nil (h : LeftmostSplit pattern cs parts) : parts ≠ [] := by
  cases h <;> exact List.cons_ne_nil _ _

/-- The parts, joined with the pattern, are the text. -/
theorem intercalate_eq (h : LeftmostSplit pattern cs parts) :
    pattern.intercalate parts = cs := by
  induction h with
  | whole => exact List.intercalate_singleton
  | @cut before after parts _ hparts ih =>
    obtain ⟨next, others, rfl⟩ := List.exists_cons_of_ne_nil hparts.ne_nil
    rw [List.intercalate_cons_cons, ih, List.append_assoc]

/-- No part holds the pattern. -/
theorem not_infix_of_mem (h : LeftmostSplit pattern cs parts) (hne : pattern ≠ []) :
    ∀ part ∈ parts, ¬ pattern <:+: part := by
  induction h with
  | whole hwhole => simpa using hwhole
  | cut hfirst _ ih => exact List.forall_mem_cons.mpr ⟨hfirst.not_infix hne, ih⟩

/-- The pattern occurs for the first time behind each part but the last one. -/
theorem firstIn_of_mem_dropLast (h : LeftmostSplit pattern cs parts) :
    ∀ part ∈ parts.dropLast, ∃ after, FirstIn pattern part after := by
  induction h with
  | whole => simp
  | @cut before after parts hfirst hparts ih =>
    rw [List.dropLast_cons_of_ne_nil hparts.ne_nil]
    exact List.forall_mem_cons.mpr ⟨⟨after, hfirst⟩, ih⟩

/-- A character at which the pattern does not begin only lengthens the first part. -/
theorem cons {c : Char} (hhere : ¬ pattern <+: c :: cs) (h : LeftmostSplit pattern cs parts) :
    LeftmostSplit pattern (c :: cs) (consHead c parts) := by
  cases h with
  | whole hwhole =>
    refine whole fun hin => ?_
    rcases List.infix_cons_iff.mp hin with hbegins | hin
    · exact hhere hbegins
    · exact hwhole hin
  | cut hfirst hparts => exact cut (firstIn_cons_iff.mpr ⟨hhere, hfirst⟩) hparts

/-- A pattern at the front makes an empty first part. -/
theorem append_pattern (h : LeftmostSplit pattern cs parts) :
    LeftmostSplit pattern (pattern ++ cs) ([] :: parts) :=
  cut (firstIn_nil pattern cs) h

end LeftmostSplit

/-! ### The splitters split leftmost -/

/-- A character is put in front of the first of some parts. -/
theorem consHead_eq_modifyHead (c : Char) {parts : List (List Char)} (h : parts ≠ []) :
    consHead c parts = parts.modifyHead (c :: ·) := by
  cases parts with
  | nil => exact absurd rfl h
  | cons part parts => rfl

/-- Splitting a text on a character splits it leftmost. -/
theorem leftmostSplit_splitOn (sep : Char) (cs : List Char) :
    LeftmostSplit [sep] cs (cs.splitOn sep) := by
  induction cs with
  | nil => exact .whole (by simp)
  | cons c cs ih =>
    rw [List.splitOn_cons_eq_if_modifyHead]
    split
    · next hc =>
      obtain rfl : c = sep := by simpa using hc
      exact ih.append_pattern
    · next hc =>
      have hhere : ¬ [sep] <+: c :: cs := by
        rintro ⟨rest, heq⟩
        exact hc (by simp [(List.cons.inj heq).1])
      rw [← consHead_eq_modifyHead c ih.ne_nil]
      exact ih.cons hhere

/-- Splitting a text on two bars in a row splits it leftmost. -/
theorem leftmostSplit_splitBars (cs : List Char) :
    LeftmostSplit ['|', '|'] cs (splitBars cs) := by
  fun_induction splitBars cs with
  | case1 => exact .whole (by simp)
  | case2 rest ih => exact ih.append_pattern
  | case3 c rest hnot ih =>
    refine ih.cons ?_
    rintro ⟨tail, heq⟩
    obtain ⟨rfl, rfl⟩ := List.cons.inj heq
    exact hnot tail rfl rfl

end Phrasebook.Text
