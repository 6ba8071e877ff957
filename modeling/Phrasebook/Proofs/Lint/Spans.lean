import Phrasebook.Diagnostic
import Phrasebook.Proofs.Catalog.Clean
import Phrasebook.Proofs.Lint.Lines
import Phrasebook.Proofs.Template.Openings

/-!
# Where findings are

Lint looks for openings that are never closed in the literals of a template alone, and for the end
of their line no further than the end of the literal. Nothing is lost by that: an opening that is
not closed on its line stands in no block, and a line end comes before the next block, or else that
block would close it. So the reported openings are just those that are not closed on their line
(`mem_unterminated_iff`), which are those that lie in no block, and each is reported up to the end of
its line in the text. All findings come from left to right (`pairwise_precedes`), and each of them
cuts a piece out of the text (`cuts_of_mem_lint`), which is what a diagnostic of a catalog marks.
-/

namespace Phrasebook

open Text (Span byteSize byteSize_append byteSize_cons byteSize_nil)
open Template (ClosedOnLine Unclosed scanFrom literalOf enclose)

/-- The span runs from an opening of the text to the end of its line. -/
def Text.Span.RunsFromOpening (s : Span) (text : String) : Prop :=
  ∃ before line after, text.toList = before ++ ('@' :: '\x7b' :: line) ++ after ∧
    (∀ c ∈ line, c ≠ '\n' ∧ c ≠ '\r') ∧ (∀ c ∈ after.head?, c = '\n' ∨ c = '\r') ∧
    s = ⟨byteSize before, byteSize before + byteSize ('@' :: '\x7b' :: line)⟩

/-- Whether one finding starts before another, or together with it if both are about blocks. -/
def Finding.Precedes (f g : Finding) : Prop :=
  f.span.start ≤ g.span.start ∧ (f.problem = .unterminated → f.span.start < g.span.start)

namespace Lint

/-! ### Lines -/

/-- A line ends at a line feed or a carriage return. -/
theorem isLineEnd_iff {c : Char} : isLineEnd c = true ↔ c = '\n' ∨ c = '\r' := by
  simp [isLineEnd]

/-- The span of an opening at a byte, up to the end of the line. -/
def openingSpan (start : Nat) (rest : List Char) : Span :=
  ⟨start, start + byteSize (('@' :: '\x7b' :: rest).takeWhile (!isLineEnd ·))⟩

/-- The two characters of an opening belong to its line. -/
theorem takeWhile_opening (rest : List Char) :
    ('@' :: '\x7b' :: rest).takeWhile (!isLineEnd ·) =
      '@' :: '\x7b' :: rest.takeWhile (!isLineEnd ·) := by
  simp [isLineEnd]

/-- An opening is closed on its line exactly if its line holds a closing brace. -/
theorem closedOnLine_iff_mem {rest : List Char} :
    ClosedOnLine rest ↔ '\x7d' ∈ rest.takeWhile (!isLineEnd ·) := by
  constructor
  · rintro ⟨content, after, rfl, hline⟩
    have hcontent : ∀ c ∈ content, (!isLineEnd c) = true := by
      intro c hc
      simp [isLineEnd, (hline c hc).1, (hline c hc).2]
    rw [List.takeWhile_append_of_pos hcontent]
    simp [isLineEnd]
  · intro hmem
    obtain ⟨content, others, hsplit⟩ := List.append_of_mem hmem
    have hrest : rest.takeWhile (!isLineEnd ·) ++ rest.dropWhile (!isLineEnd ·) = rest :=
      List.takeWhile_append_dropWhile
    refine ⟨content, others ++ rest.dropWhile (!isLineEnd ·), ?_, fun c hc => ?_⟩
    · rw [hsplit] at hrest
      simpa using hrest.symm
    · have hkept : c ∈ rest.takeWhile (!isLineEnd ·) := by
        rw [hsplit]
        exact List.mem_append_left _ hc
      have hline := List.mem_takeWhile_imp hkept
      simpa [isLineEnd] using hline

/-- Before a block, an opening that is not closed has its line end in front of the block. -/
theorem openingSpan_append_enclose {inner content after : List Char} (start : Nat)
    (hcontent : Template.Inner content) (h : ¬ ClosedOnLine (inner ++ (enclose content ++ after))) :
    openingSpan start (inner ++ (enclose content ++ after)) = openingSpan start inner := by
  have hend : ∃ c ∈ inner, isLineEnd c = true := by
    by_contra hnone
    refine h ⟨inner ++ '@' :: '\x7b' :: content, after, by simp [enclose], fun c hc => ?_⟩
    rcases List.mem_append.mp hc with hc | hc
    · have hline := fun hend => hnone ⟨c, hc, hend⟩
      simpa [isLineEnd] using hline
    · have hmem : c ∈ enclose content := by
        unfold enclose
        exact List.mem_append_left _ hc
      constructor
      · rintro rfl
        exact Template.lineEnd_not_mem_enclose (Or.inl rfl) hcontent hmem
      · rintro rfl
        exact Template.lineEnd_not_mem_enclose (Or.inr rfl) hcontent hmem
  obtain ⟨c, hc, hcend⟩ := hend
  obtain ⟨line, others, rfl⟩ := List.append_of_mem hc
  have hlineEnd := isLineEnd_iff.mp hcend
  unfold openingSpan
  rw [takeWhile_opening, takeWhile_opening, List.append_assoc, List.cons_append,
    takeWhile_append_lineEnd hlineEnd, takeWhile_append_lineEnd hlineEnd]

/-! ### Openings in a literal -/

/-- An opening of a text begins it or stands behind its first character. -/
theorem exists_opening_cons_iff {c : Char} {cs : List Char} {p : List Char → List Char → Prop} :
    (∃ before rest, c :: cs = before ++ '@' :: '\x7b' :: rest ∧ p before rest) ↔
      (∃ rest, c = '@' ∧ cs = '\x7b' :: rest ∧ p [] rest) ∨
        ∃ before rest, cs = before ++ '@' :: '\x7b' :: rest ∧ p (c :: before) rest := by
  constructor
  · rintro ⟨before, rest, heq, hp⟩
    cases before with
    | nil =>
      obtain ⟨rfl, rfl⟩ := List.cons.inj heq
      exact Or.inl ⟨rest, rfl, rfl, hp⟩
    | cons d before =>
      obtain ⟨rfl, rfl⟩ := List.cons.inj heq
      exact Or.inr ⟨before, rest, rfl, hp⟩
  · rintro (⟨rest, rfl, rfl, hp⟩ | ⟨before, rest, rfl, hp⟩)
    · exact ⟨[], rest, rfl, hp⟩
    · exact ⟨c :: before, rest, rfl, hp⟩

/-- The findings in a literal are its openings, each up to the end of its line in the literal. -/
theorem mem_ofLiteral_iff {start : Nat} {cs : List Char} {f : Finding} :
    f ∈ ofLiteral start cs ↔ ∃ before rest, cs = before ++ '@' :: '\x7b' :: rest ∧
      f = ⟨openingSpan (start + byteSize before) rest, .unterminated⟩ := by
  induction cs generalizing start with
  | nil => simp [ofLiteral]
  | cons c cs ih =>
    rw [exists_opening_cons_iff]
    simp only [byteSize_cons, ← Nat.add_assoc, byteSize_nil, Nat.add_zero]
    rw [← ih, ofLiteral]
    split
    · next hopens =>
      obtain ⟨rfl, hhead⟩ := hopens
      obtain ⟨rest, rfl⟩ := List.head?_eq_some_iff.mp hhead
      rw [List.mem_cons]
      simp [openingSpan]
    · next hopens =>
      refine (or_iff_right ?_).symm
      rintro ⟨rest, rfl, rfl, -⟩
      exact hopens ⟨rfl, rfl⟩

/-- The openings in a literal are found from left to right, at bytes of the literal. -/
theorem pairwise_ofLiteral (start : Nat) (cs : List Char) :
    (ofLiteral start cs).Pairwise (·.span.start < ·.span.start) ∧
      ∀ f ∈ ofLiteral start cs, start ≤ f.span.start ∧ f.span.start < start + byteSize cs := by
  induction cs generalizing start with
  | nil => simp [ofLiteral]
  | cons c cs ih =>
    obtain ⟨hordered, hbounds⟩ := ih (start + c.utf8Size)
    have hsize := Char.utf8Size_pos c
    have hlater : ∀ f ∈ ofLiteral (start + c.utf8Size) cs,
        start < f.span.start ∧ f.span.start < start + byteSize (c :: cs) := by
      intro f hf
      obtain ⟨hlow, hhigh⟩ := hbounds f hf
      rw [byteSize_cons]
      omega
    rw [ofLiteral]
    split
    · refine ⟨List.pairwise_cons.mpr ⟨fun f hf => (hlater f hf).1, hordered⟩, ?_⟩
      rw [List.forall_mem_cons]
      refine ⟨⟨Nat.le_refl start, Nat.lt_add_of_pos_right ?_⟩,
        fun f hf => ⟨(hlater f hf).1.le, (hlater f hf).2⟩⟩
      rw [byteSize_cons]
      omega
    · exact ⟨hordered, fun f hf => ⟨(hlater f hf).1.le, (hlater f hf).2⟩⟩

/-! ### Findings in blocks -/

variable (known : List String)

/-- No problem of a clause is an opening without an end. -/
theorem unterminated_not_mem_ofClauses {index : Nat} {drafts : List Clause.Draft} :
    .unterminated ∉ ofClauses known index drafts := by
  induction drafts generalizing index with
  | nil => exact List.not_mem_nil
  | cons d rest ih =>
    have hmodifier : .unterminated ∉ ofModifier known d.modifier := by
      unfold ofModifier
      split
      · exact List.not_mem_nil
      · split <;> simp
    rw [ofClauses, ofClause, List.mem_append, List.mem_append]
    rintro ((hfields | hin) | hin)
    · split at hfields <;> simp at hfields
    · exact hmodifier hin
    · exact ih hin

/-- Blocks have problems of their own. -/
theorem unterminated_not_mem_ofBlock {content : String} :
    .unterminated ∉ ofBlock known content := by
  unfold ofBlock
  split
  · simp
  · exact List.not_mem_nil
  · exact unterminated_not_mem_ofClauses known

/-- A finding in a block has the span of the block, and is no opening without an end. -/
theorem eq_span_of_mem_ofBlock {content : String} {span : Span} {f : Finding}
    (h : f ∈ (ofBlock known content).map (Finding.mk span)) :
    f.span = span ∧ f.problem ≠ .unterminated := by
  obtain ⟨p, hp, rfl⟩ := List.mem_map.mp h
  refine ⟨rfl, ?_⟩
  rintro rfl
  exact unterminated_not_mem_ofBlock known hp

/-- A finding is an opening that is never closed, or comes from a block and has its span. -/
theorem unterminated_or_block_of_mem {start : Nat} {segments : List Segment} {f : Finding}
    (h : f ∈ ofSegments known start segments) :
    f.problem = .unterminated ∨ ∃ b, .block b ∈ segments ∧ f.span = b.span := by
  induction segments generalizing start with
  | nil => cases h
  | cons segment rest ih =>
    have hlater {start : Nat} (hf : f ∈ ofSegments known start rest) :
        f.problem = .unterminated ∨ ∃ b, .block b ∈ segment :: rest ∧ f.span = b.span := by
      rcases ih hf with hproblem | ⟨b, hb, hspan⟩
      · exact Or.inl hproblem
      · exact Or.inr ⟨b, List.mem_cons_of_mem _ hb, hspan⟩
    cases segment with
    | literal text =>
      rw [ofSegments, List.mem_append] at h
      rcases h with hf | hf
      · exact Or.inl (problem_of_mem_ofLiteral hf)
      · exact hlater hf
    | block b =>
      rw [ofSegments, List.mem_append] at h
      rcases h with hf | hf
      · exact Or.inr ⟨b, List.mem_cons_self, (eq_span_of_mem_ofBlock known hf).1⟩
      · exact hlater hf

/-! ### Findings in a text -/

/-- The findings in a text that begins with literal text and a block. -/
theorem ofSegments_scanFrom_of_some {start : Nat} {cs text content after : List Char}
    (h : Template.firstBlock? cs = some (text, content, after)) :
    let opening := start + byteSize text
    let closing := opening + byteSize (enclose content)
    ofSegments known start (scanFrom start cs) =
      ofLiteral start text ++
        ((ofBlock known (String.ofList content)).map (Finding.mk ⟨opening, closing⟩) ++
          ofSegments known closing (scanFrom closing after)) := by
  intro opening closing
  rw [Template.scanFrom_of_some h, ofSegments_literalOf_append]
  rfl

/-- A text without blocks has the findings of a literal. -/
theorem ofSegments_scanFrom_of_none {start : Nat} {cs : List Char}
    (h : Template.firstBlock? cs = none) :
    ofSegments known start (scanFrom start cs) = ofLiteral start cs := by
  have hliteral := ofSegments_literalOf_append known start cs []
  rw [List.append_nil, ofSegments, List.append_nil] at hliteral
  rw [Template.scanFrom_of_none h, hliteral]

/-- The openings that are reported are those that are not closed on their line. -/
theorem mem_unterminated_iff (start : Nat) (cs : List Char) {s : Span} :
    ⟨s, .unterminated⟩ ∈ ofSegments known start (scanFrom start cs) ↔
      ∃ before rest, cs = before ++ '@' :: '\x7b' :: rest ∧ ¬ ClosedOnLine rest ∧
        s = openingSpan (start + byteSize before) rest := by
  induction start, cs using Template.scanFrom.induct with
  | case1 start cs hnone =>
    rw [ofSegments_scanFrom_of_none known hnone, mem_ofLiteral_iff]
    have hunclosed := Template.firstBlock?_eq_none_iff.mp hnone
    constructor
    · rintro ⟨before, rest, hcs, hf⟩
      have hopen : ¬ ClosedOnLine rest := by simpa using hunclosed before rest hcs
      exact ⟨before, rest, hcs, hopen, congrArg Finding.span hf⟩
    · rintro ⟨before, rest, hcs, -, rfl⟩
      exact ⟨before, rest, hcs, rfl⟩
  | case2 start cs text content after hfirst opening closing ih =>
    obtain ⟨hcs, hinner, hunclosed⟩ := Template.firstBlock?_eq_some_iff.mp hfirst
    have hblock : ⟨s, .unterminated⟩ ∉
        (ofBlock known (String.ofList content)).map (Finding.mk ⟨opening, closing⟩) :=
      fun hin => (eq_span_of_mem_ofBlock known hin).2 rfl
    rw [ofSegments_scanFrom_of_some known hfirst, List.mem_append, List.mem_append,
      or_iff_right hblock, ih, mem_ofLiteral_iff]
    constructor
    · -- an opening before the block is open in the whole text, since the block is the leftmost one
      rintro (⟨before, inner, htext, hf⟩ | ⟨between, rest, hafter, hopen, rfl⟩)
      · have hopen := hunclosed before inner htext
        refine ⟨before, inner ++ (enclose content ++ after), ?_, hopen, ?_⟩
        · rw [hcs, htext]
          simp
        · rw [openingSpan_append_enclose _ hinner hopen]
          exact congrArg Finding.span hf
      · refine ⟨text ++ enclose content ++ between, rest, ?_, hopen, ?_⟩
        · rw [hcs, hafter]
          simp
        · simp only [closing, opening, byteSize_append, Nat.add_assoc]
    · -- the seams of the text say on which side of the block an opening stands
      rintro ⟨before, rest, hopening, hopen, rfl⟩
      rcases Template.opening_append_enclose (hcs.symm.trans hopening) with
        ⟨inner, htext, rfl⟩ | ⟨between, inner, -, hinside, rfl⟩ | ⟨between, rfl, hafter⟩
      · refine Or.inl ⟨before, inner, htext, ?_⟩
        rw [openingSpan_append_enclose _ hinner hopen]
      · exact absurd (Template.closedOnLine_of_enclose hinner hinside after) hopen
      · refine Or.inr ⟨between, rest, hafter, hopen, ?_⟩
        simp only [closing, opening, byteSize_append, Nat.add_assoc]

/-- Findings come from left to right, and none is left of where the text begins. The second part
carries the first one from the text behind a block to the whole. -/
theorem pairwise_precedes (start : Nat) (cs : List Char) :
    (ofSegments known start (scanFrom start cs)).Pairwise Finding.Precedes ∧
      ∀ f ∈ ofSegments known start (scanFrom start cs), start ≤ f.span.start := by
  induction start, cs using Template.scanFrom.induct with
  | case1 start cs hnone =>
    obtain ⟨hordered, hbounds⟩ := pairwise_ofLiteral start cs
    rw [ofSegments_scanFrom_of_none known hnone]
    exact ⟨hordered.imp fun hlt => ⟨hlt.le, fun _ => hlt⟩, fun f hf => (hbounds f hf).1⟩
  | case2 start cs text content after hfirst opening closing ih =>
    obtain ⟨hordered, hbounds⟩ := pairwise_ofLiteral start text
    obtain ⟨hlater, hclosing⟩ := ih
    have hopening : start ≤ opening := Nat.le_add_right _ _
    have hsize : opening ≤ closing := Nat.le_add_right _ _
    rw [ofSegments_scanFrom_of_some known hfirst]
    have hblock : ∀ f ∈ (ofBlock known (String.ofList content)).map (Finding.mk ⟨opening, closing⟩),
        f.span.start = opening ∧ f.problem ≠ .unterminated := by
      intro f hf
      obtain ⟨hspan, hproblem⟩ := eq_span_of_mem_ofBlock known hf
      exact ⟨congrArg Span.start hspan, hproblem⟩
    constructor
    · rw [List.pairwise_append, List.pairwise_append]
      refine ⟨hordered.imp fun hlt => ⟨hlt.le, fun _ => hlt⟩, ⟨?_, hlater, ?_⟩, ?_⟩
      · exact List.pairwise_of_forall_mem_list fun f hf g hg =>
          ⟨by rw [(hblock f hf).1, (hblock g hg).1], fun hf' => absurd hf' (hblock f hf).2⟩
      · intro f hf g hg
        have hle : f.span.start ≤ g.span.start := by
          rw [(hblock f hf).1]
          exact hsize.trans (hclosing g hg)
        exact ⟨hle, fun hf' => absurd hf' (hblock f hf).2⟩
      · intro f hf g hg
        have hlt : f.span.start < g.span.start := by
          refine (hbounds f hf).2.trans_le ?_
          rcases List.mem_append.mp hg with hg | hg
          · rw [(hblock g hg).1]
          · exact hsize.trans (hclosing g hg)
        exact ⟨hlt.le, fun _ => hlt⟩
    · intro f hf
      rw [List.mem_append, List.mem_append] at hf
      rcases hf with hf | hf | hf
      · exact (hbounds f hf).1
      · rw [(hblock f hf).1]
        exact hopening
      · exact hopening.trans (hsize.trans (hclosing f hf))

end Lint

/-! ### Spans in the text -/

/-- A span cuts out the characters that stand between its two ends. -/
theorem Text.Span.cuts_of_toList_eq {text : String} {before piece after : List Char}
    (h : text.toList = before ++ piece ++ after) :
    (Span.mk (byteSize before) (byteSize before + byteSize piece)).Cuts text
      (String.ofList piece) := by
  refine ⟨String.ofList before, String.ofList after, ?_, ?_⟩
  · rw [← String.ofList_append, ← String.ofList_append, ← h, String.ofList_toList]
  · rw [Text.utf8ByteSize_ofList, Text.utf8ByteSize_ofList]

/-- A span that runs from an opening is that of the opening. -/
theorem Text.Span.runsFromOpening_iff {s : Span} {text : String} :
    s.RunsFromOpening text ↔ ∃ before rest, text.toList = before ++ '@' :: '\x7b' :: rest ∧
      s = Lint.openingSpan (byteSize before) rest := by
  unfold RunsFromOpening
  constructor
  · rintro ⟨before, line, after, htext, hline, hafter, rfl⟩
    refine ⟨before, line ++ after, by rw [htext]; simp, ?_⟩
    have hkept : ∀ c ∈ line, (!Lint.isLineEnd c) = true := by
      intro c hc
      simp [Lint.isLineEnd, hline c hc]
    have hstop : after.takeWhile (!Lint.isLineEnd ·) = [] := by
      cases after with
      | nil => rfl
      | cons c after =>
        have hend := Lint.isLineEnd_iff.mpr (hafter c rfl)
        exact List.takeWhile_cons_of_neg (by simp [hend])
    unfold Lint.openingSpan
    rw [Lint.takeWhile_opening, List.takeWhile_append_of_pos hkept, hstop, List.append_nil]
  · rintro ⟨before, rest, htext, rfl⟩
    refine ⟨before, rest.takeWhile (!Lint.isLineEnd ·), rest.dropWhile (!Lint.isLineEnd ·), ?_,
      fun c hc => ?_, fun c hc => ?_, ?_⟩
    · rw [htext]
      simp
    · have hline := List.mem_takeWhile_imp hc
      simpa [Lint.isLineEnd] using hline
    · have hhead := List.head?_dropWhile_not (!Lint.isLineEnd ·) rest
      rw [Option.mem_def.mp hc] at hhead
      exact Lint.isLineEnd_iff.mp (by simpa using hhead)
    · unfold Lint.openingSpan
      rw [Lint.takeWhile_opening]

namespace Registry

variable (r : Registry) (text : String)

/-- The openings that are found in a text are those that are not closed on their line. -/
theorem mem_lint_unterminated_iff {s : Span} :
    ⟨s, .unterminated⟩ ∈ r.lint text ↔
      ∃ before rest, text.toList = before ++ '@' :: '\x7b' :: rest ∧ ¬ ClosedOnLine rest ∧
        s = Lint.openingSpan (byteSize before) rest := by
  have hiff := Lint.mem_unterminated_iff r.names 0 text.toList (s := s)
  simp only [Nat.zero_add] at hiff
  exact hiff

/-- An opening that is closed on its line is one that a block of the text holds. -/
theorem closedOnLine_iff_block {before rest : List Char}
    (h : text.toList = before ++ '@' :: '\x7b' :: rest) :
    ClosedOnLine rest ↔ ∃ b ∈ (Template.parse text).blocks, b.Holds (byteSize before) := by
  have hiff := Template.closedOnLine_iff_held 0 text.toList before rest h
  simp only [Nat.zero_add] at hiff
  simp only [Template.mem_blocks_iff]
  exact hiff

/-- The openings that are reported are those that no block of the text holds, up to the end of their
line. -/
theorem mem_lint_unterminated_iff_not_held {s : Span} :
    ⟨s, .unterminated⟩ ∈ r.lint text ↔
      s.RunsFromOpening text ∧ ∀ b ∈ (Template.parse text).blocks, ¬ b.Holds s.start := by
  rw [mem_lint_unterminated_iff, Text.Span.runsFromOpening_iff]
  constructor
  · rintro ⟨before, rest, htext, hopen, rfl⟩
    refine ⟨⟨before, rest, htext, rfl⟩, fun b hb hholds => hopen ?_⟩
    exact (closedOnLine_iff_block text htext).mpr ⟨b, hb, hholds⟩
  · rintro ⟨⟨before, rest, htext, rfl⟩, hheld⟩
    refine ⟨before, rest, htext, fun hclosed => ?_, rfl⟩
    obtain ⟨b, hb, hholds⟩ := (closedOnLine_iff_block text htext).mp hclosed
    exact hheld b hb hholds

/-- What is reported of an opening holds no closing brace. -/
theorem exists_line_of_unterminated {s : Span} (h : ⟨s, .unterminated⟩ ∈ r.lint text) :
    ∃ line, s.Cuts text line ∧ '\x7d' ∉ line.toList := by
  obtain ⟨before, rest, htext, hopen, rfl⟩ := (mem_lint_unterminated_iff r text).mp h
  have hsplit : text.toList = before ++ ('@' :: '\x7b' :: rest).takeWhile (!Lint.isLineEnd ·) ++
      ('@' :: '\x7b' :: rest).dropWhile (!Lint.isLineEnd ·) := by
    rw [List.append_assoc, List.takeWhile_append_dropWhile, htext]
  refine ⟨_, Text.Span.cuts_of_toList_eq hsplit, ?_⟩
  rw [String.toList_ofList, Lint.takeWhile_opening]
  simpa using mt Lint.closedOnLine_iff_mem.mpr hopen

/-- Every finding cuts a piece out of the text. -/
theorem cuts_of_mem_lint {f : Finding} (h : f ∈ r.lint text) : ∃ piece, f.span.Cuts text piece := by
  rcases Lint.unterminated_or_block_of_mem r.names h with hproblem | ⟨b, hb, hspan⟩
  · obtain ⟨span, problem⟩ := f
    obtain rfl : problem = .unterminated := hproblem
    obtain ⟨line, hcuts, -⟩ := exists_line_of_unterminated r text h
    exact ⟨line, hcuts⟩
  · rw [hspan]
    exact ⟨_, Template.cuts_of_mem_parse hb⟩

/-- No finding of a text begins before one that is listed in front of it. -/
theorem pairwise_precedes_lint : (r.lint text).Pairwise Finding.Precedes :=
  (Lint.pairwise_precedes r.names 0 text.toList).1

end Registry

/-- A finding of a catalog is one in the text that is shown with it. -/
theorem Catalog.finding_mem_lint {c : Catalog} {r : Registry} {f : CatalogFinding}
    (h : f ∈ c.lint r) : f.finding ∈ r.lint (c.textOf f) := by
  obtain ⟨⟨role, d⟩, hd, hf⟩ := List.mem_flatMap.mp h
  obtain ⟨⟨key, text⟩, hentry, hf⟩ := List.mem_flatMap.mp hf
  obtain ⟨finding, hfinding, rfl⟩ := List.mem_map.mp hf
  have htext : c.textOf ⟨role, key, finding⟩ = text := by
    unfold textOf
    simp only [mem_dictionaries_iff.mp hd, Option.bind_some, Keyed.get?_eq_some_iff.mpr hentry,
      Option.getD_some]
  rw [htext]
  exact hfinding

/-- Lint reports the openings of a text that lie in no block, each once, from left to right, and up
to the end of its line, which holds no closing brace; every opening is in a block or reported. All
findings come from left to right, and each cuts a piece out of the text, so that the label of a
diagnostic marks a piece of the text that it shows. -/
theorem lint_locates_openings :
    (∀ (r : Registry) (text : String),
      (((r.lint text).filter (·.problem = .unterminated)).map (·.span.start)).Pairwise (· < ·) ∧
      (∀ s : Span, ⟨s, .unterminated⟩ ∈ r.lint text ↔
        s.RunsFromOpening text ∧ ∀ b ∈ (Template.parse text).blocks, ¬ b.Holds s.start) ∧
      (∀ s : Span, ⟨s, .unterminated⟩ ∈ r.lint text →
        ∃ line, s.Cuts text line ∧ '\x7d' ∉ line.toList) ∧
      (∀ before after : String, text = before ++ "@\x7b" ++ after →
        (∃ b ∈ (Template.parse text).blocks, b.Holds before.utf8ByteSize) ∨
          ∃ s : Span, s.start = before.utf8ByteSize ∧ ⟨s, .unterminated⟩ ∈ r.lint text) ∧
      ((r.lint text).map (·.span.start)).Pairwise (· ≤ ·) ∧
      (∀ f ∈ r.lint text, ∃ piece, f.span.Cuts text piece)) ∧
    (∀ (c : Catalog) (r : Registry) (path : String), ∀ f ∈ c.lint r,
      ∀ l ∈ (Diagnostic.ofFinding path f).labels,
        ∃ piece, (Span.mk l.offset (l.offset + l.size)).Cuts (c.textOf f) piece) := by
  refine ⟨fun r text => ⟨?_, fun s => r.mem_lint_unterminated_iff_not_held text,
    fun s => r.exists_line_of_unterminated text, fun before after htext => ?_, ?_,
    fun f => r.cuts_of_mem_lint text⟩, fun c r path f hf l hl => ?_⟩
  · rw [List.pairwise_map, List.pairwise_filter]
    exact (r.pairwise_precedes_lint text).imp fun hprecedes hf _ => hprecedes.2 (by simpa using hf)
  · have hlist : text.toList = before.toList ++ '@' :: '\x7b' :: after.toList := by
      rw [htext]
      simp
    by_cases hclosed : ClosedOnLine after.toList
    · left
      rw [← Template.byteSize_toList]
      exact (Registry.closedOnLine_iff_block text hlist).mp hclosed
    · right
      refine ⟨_, ?_, (r.mem_lint_unterminated_iff text).mpr ⟨_, _, hlist, hclosed, rfl⟩⟩
      exact Template.byteSize_toList before
  · rw [List.pairwise_map]
    exact (r.pairwise_precedes_lint text).imp fun hprecedes => hprecedes.1
  · obtain rfl : l = ⟨Diagnostic.here, f.finding.span.start, f.finding.span.size⟩ := by
      simpa [Diagnostic.ofFinding, Diagnostic.labelled] using hl
    obtain ⟨piece, before, after, htext, hspan⟩ :=
      r.cuts_of_mem_lint _ (Catalog.finding_mem_lint hf)
    refine ⟨piece, before, after, htext, ?_⟩
    simp only [hspan, Span.size]
    congr 1
    omega

/-- A text with an opening behind a character of two bytes, which is reported up to the end of its
line, a malformed block that holds a second opening, and an opening at the end; the diagnostic of the
first finding marks the opening and its line. -/
theorem lint_locates_openings_held :
    let text := "é@\x7bx\n@\x7ba@\x7bb\x7d@\x7b"
    let catalog : Catalog := ⟨some ⟨none, none, Keyed.ofList [("k", text)]⟩, none⟩
    let first : Finding := ⟨⟨2, 5⟩, .unterminated⟩
    Registry.builtin.lint text =
      [first, ⟨⟨6, 13⟩, .malformedBlock .noSections⟩, ⟨⟨13, 15⟩, .unterminated⟩] ∧
    (Span.mk 2 5).RunsFromOpening text ∧
    (∃ line, (Span.mk 2 5).Cuts text line ∧ '\x7d' ∉ line.toList) ∧
    (∃ b ∈ (Template.parse text).blocks, b.Holds 9) ∧
    (∃ piece, (Span.mk 6 13).Cuts text piece) ∧
    (Diagnostic.ofFinding "p" ⟨.base, "k", first⟩).labels = [⟨"here", 2, 3⟩] ∧
    ∃ piece, (Span.mk 2 (2 + 3)).Cuts (catalog.textOf ⟨.base, "k", first⟩) piece := by
  intro text catalog first
  obtain ⟨htexts, hlabels⟩ := lint_locates_openings
  obtain ⟨-, hopenings, hbrace, hheld, -, hcuts⟩ := htexts .builtin text
  have hlint : Registry.builtin.lint text =
      [first, ⟨⟨6, 13⟩, .malformedBlock .noSections⟩, ⟨⟨13, 15⟩, .unterminated⟩] := by
    decide +kernel
  have hfirst : first ∈ Registry.builtin.lint text := by
    rw [hlint]
    exact List.mem_cons_self
  have hsecond : ⟨⟨6, 13⟩, .malformedBlock .noSections⟩ ∈ Registry.builtin.lint text := by
    rw [hlint]
    exact List.mem_cons_of_mem _ List.mem_cons_self
  refine ⟨hlint, ((hopenings _).mp hfirst).1, hbrace _ hfirst, ?_, hcuts _ hsecond, rfl, ?_⟩
  · rcases hheld "é@\x7bx\n@\x7ba" "b\x7d@\x7b" (by decide +kernel) with hblock | ⟨s, hs, hmem⟩
    · exact hblock
    · -- the two openings that are reported start elsewhere
      have hstarts : s = ⟨2, 5⟩ ∨ s = ⟨13, 15⟩ := by
        rw [hlint] at hmem
        simpa [first] using hmem
      have hbytes : s.start = 9 := hs.trans (by decide +kernel)
      rcases hstarts with rfl | rfl
      · cases hbytes
      · cases hbytes
  · exact hlabels catalog .builtin "p" ⟨.base, "k", first⟩ (by decide +kernel) ⟨"here", 2, 3⟩
      List.mem_cons_self

end Phrasebook
