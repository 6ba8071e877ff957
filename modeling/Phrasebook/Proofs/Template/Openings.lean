import Phrasebook.Proofs.Template.Lines

/-!
# Openings inside and outside of blocks

An opening of a block is an at sign before a brace, wherever it stands. Some openings begin the
blocks that scanning finds, others stand in the content of one, and the rest is literal text. The
first two are closed on their line, since the closing brace of the block is, and the last are not:
an opening is closed on its line exactly if a block holds it (`closedOnLine_iff_held`).
-/

namespace Phrasebook

open Text (byteSize byteSize_append byteSize_cons)

/-- The opening at a byte of the text lies in the block. -/
def Block.Holds (b : Block) (start : Nat) : Prop :=
  b.span.start ≤ start ∧ start + 2 ≤ b.span.stop

namespace Template

/-- The blocks of a template are those among its segments. -/
theorem mem_blocks_iff {t : Template} {b : Block} : b ∈ t.blocks ↔ .block b ∈ t.segments := by
  unfold blocks
  rw [List.mem_filterMap]
  constructor
  · rintro ⟨segment, hsegment, hb⟩
    cases segment with
    | literal text => cases hb
    | block b' =>
      obtain rfl := Option.some.inj hb
      exact hsegment
  · intro hb
    exact ⟨.block b, hb, rfl⟩

/-! ### Openings of joined texts -/

/-- An opening of joined texts lies in one of the two, if none comes about at the seam. -/
theorem opening_append {xs ys before rest : List Char}
    (hseam : xs.getLast? = some '@' → ys.head? ≠ some '\x7b')
    (h : xs ++ ys = before ++ '@' :: '\x7b' :: rest) :
    (∃ inner, xs = before ++ '@' :: '\x7b' :: inner ∧ rest = inner ++ ys) ∨
      ∃ between, before = xs ++ between ∧ ys = between ++ '@' :: '\x7b' :: rest := by
  rcases List.append_eq_append_iff.mp h with ⟨between, hbefore, hys⟩ | ⟨inner, hxs, hopening⟩
  · exact Or.inr ⟨between, hbefore, hys⟩
  · rcases inner with _ | ⟨c, _ | ⟨d, inner⟩⟩
    · exact Or.inr ⟨[], by rw [hxs, List.append_nil, List.append_nil], hopening.symm⟩
    · -- the at sign would end the first text and the brace begin the second one
      simp only [List.cons_append, List.nil_append, List.cons.injEq] at hopening
      obtain ⟨rfl, rfl⟩ := hopening
      refine absurd rfl (hseam ?_)
      rw [hxs, List.getLast?_concat]
    · simp only [List.cons_append, List.cons.injEq] at hopening
      obtain ⟨rfl, rfl, hrest⟩ := hopening
      exact Or.inl ⟨inner, hxs, hrest⟩

/-- An enclosed text ends with the closing brace. -/
theorem getLast?_enclose (content : List Char) : (enclose content).getLast? = some '\x7d' := by
  exact List.getLast?_concat (l := '@' :: '\x7b' :: content)

/-- An opening of a text with a block in it stands before the block, in it, or after it. -/
theorem opening_append_enclose {text content after before rest : List Char}
    (h : text ++ enclose content ++ after = before ++ '@' :: '\x7b' :: rest) :
    (∃ inner, text = before ++ '@' :: '\x7b' :: inner ∧ rest = inner ++ (enclose content ++ after)) ∨
      (∃ between inner, before = text ++ between ∧
        enclose content = between ++ '@' :: '\x7b' :: inner ∧ rest = inner ++ after) ∨
      ∃ between, before = text ++ enclose content ++ between ∧
        after = between ++ '@' :: '\x7b' :: rest := by
  rw [List.append_assoc] at h
  rcases opening_append (fun _ => by simp [enclose]) h with hinner | ⟨front, hbefore, hlater⟩
  · exact Or.inl hinner
  · have hseam : (enclose content).getLast? = some '@' → after.head? ≠ some '\x7b' := by
      rw [getLast?_enclose]
      intro hat
      cases hat
    rcases opening_append hseam hlater with ⟨inner, hblock, hrest⟩ | ⟨between, hfront, hafter⟩
    · exact Or.inr (Or.inl ⟨front, inner, hbefore, hblock, hrest⟩)
    · exact Or.inr (Or.inr ⟨between, by rw [hbefore, hfront, List.append_assoc], hafter⟩)

/-- An opening in a block is closed on its line, by the brace of the block at the latest. -/
theorem closedOnLine_of_enclose {content between inner : List Char} (h : Inner content)
    (hopening : enclose content = between ++ '@' :: '\x7b' :: inner) (after : List Char) :
    ClosedOnLine (inner ++ after) := by
  have hlast := getLast?_enclose content
  rcases List.eq_nil_or_concat inner with rfl | ⟨line, last, rfl⟩
  · have hbrace : (enclose content).getLast? = some '\x7b' := by
      rw [hopening]
      simp
    rw [hlast] at hbrace
    cases hbrace
  · rw [hopening, List.concat_eq_append, ← List.cons_append, ← List.cons_append,
      ← List.append_assoc, List.getLast?_concat] at hlast
    obtain rfl := Option.some.inj hlast
    refine ⟨line, after, by simp, fun c hc => ?_⟩
    have hmem : c ∈ enclose content := by
      rw [hopening]
      simp [hc]
    constructor
    · rintro rfl
      exact lineEnd_not_mem_enclose (Or.inl rfl) h hmem
    · rintro rfl
      exact lineEnd_not_mem_enclose (Or.inr rfl) h hmem

/-! ### Openings and blocks -/

/-- The blocks of a text begin where the text begins or further right. -/
theorem le_start_of_mem_scanFrom {start : Nat} {cs : List Char} {b : Block}
    (h : .block b ∈ scanFrom start cs) : start ≤ b.span.start := by
  obtain ⟨before, after, hsegments⟩ := List.append_of_mem h
  rw [(canonicalFrom_scanFrom start cs).block_span before b after hsegments]
  exact Nat.le_add_right _ _

/-- The literal of a text is not a block. -/
theorem block_not_mem_literalOf {b : Block} {cs : List Char} : .block b ∉ literalOf cs := by
  cases cs <;> simp [literalOf]

/-- An opening is closed on its line exactly if a block of the text holds it. -/
theorem closedOnLine_iff_held (start : Nat) (cs before rest : List Char)
    (h : cs = before ++ '@' :: '\x7b' :: rest) :
    ClosedOnLine rest ↔ ∃ b, .block b ∈ scanFrom start cs ∧ b.Holds (start + byteSize before) := by
  induction start, cs using scanFrom.induct generalizing before with
  | case1 start cs hnone =>
    have hopen : ¬ ClosedOnLine rest := by
      simpa using firstBlock?_eq_none_iff.mp hnone before rest h
    rw [scanFrom_of_none hnone]
    constructor
    · exact fun hclosed => absurd hclosed hopen
    · rintro ⟨b, hb, -⟩
      exact absurd hb block_not_mem_literalOf
  | case2 start cs text content after hfirst opening closing ih =>
    obtain ⟨hcs, hinner, hunclosed⟩ := firstBlock?_eq_some_iff.mp hfirst
    have hmem (b : Block) : .block b ∈ scanFrom start cs ↔
        b = ⟨String.ofList content, ⟨opening, closing⟩⟩ ∨ .block b ∈ scanFrom closing after := by
      rw [scanFrom_of_some hfirst, List.mem_append, List.mem_cons, Segment.block.injEq]
      exact or_iff_right block_not_mem_literalOf
    simp only [hmem]
    rcases opening_append_enclose (hcs.symm.trans h) with
      ⟨inner, htext, rfl⟩ | ⟨between, inner, rfl, hblock, rfl⟩ | ⟨between, rfl, hafter⟩
    · -- the opening ends before the leftmost block begins, and is not closed
      have hsize : start + byteSize before < opening := by
        simp only [opening, htext, byteSize_append, byteSize_cons]
        have := Char.utf8Size_pos '@'
        omega
      constructor
      · exact fun hclosed => absurd hclosed (hunclosed before inner htext)
      · rintro ⟨b, rfl | hb, hstart, -⟩
        · exact absurd hstart (by simp only; omega)
        · have := le_start_of_mem_scanFrom hb
          omega
    · -- the opening stands in the leftmost block, which closes and holds it
      have hsize : byteSize (enclose content) = byteSize between + (1 + (1 + byteSize inner)) := by
        rw [hblock, byteSize_append]
        rfl
      refine iff_of_true (closedOnLine_of_enclose hinner hblock after)
        ⟨_, Or.inl rfl, ?_, ?_⟩
      · simp only [opening, byteSize_append]
        omega
      · simp only [closing, opening, byteSize_append]
        omega
    · -- the opening stands after the leftmost block
      have hplace : start + byteSize (text ++ enclose content ++ between) =
          closing + byteSize between := by
        simp only [closing, opening, byteSize_append]
        omega
      rw [ih between hafter, hplace]
      constructor
      · rintro ⟨b, hb, hholds⟩
        exact ⟨b, Or.inr hb, hholds⟩
      · rintro ⟨b, rfl | hb, hholds⟩
        · exact absurd hholds.2 (by simp only; omega)
        · exact ⟨b, hb, hholds⟩

end Template

end Phrasebook
