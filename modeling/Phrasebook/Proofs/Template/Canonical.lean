import Phrasebook.Proofs.Template.Scan
import Phrasebook.Shared

/-!
# Canonical templates

A text has many divisions into literals and blocks that render it; scanning finds one. It is the
**canonical** one (`Template.Canonical`): no literal is empty, no two literals are neighbours, no
block holds a character that would end it, every block carries the bytes it occupies, and no opening
in a literal is closed on its line. A canonical template is the only one with its rendering, so that
scanning and rendering are inverse to each other (`parse_inverse_render`).

The conditions are global: they speak of every way to take the list of segments apart. All proofs
go through their recursive form (`canonicalFrom_cons_iff`), which says of the first segment what it
must satisfy and leaves the rest to the segments that follow.
-/

namespace Phrasebook

open Text (Span byteSize)

/-- A span cuts a piece out of a text: the piece occupies just the bytes of the span. -/
def Text.Span.Cuts (s : Span) (text piece : String) : Prop :=
  ∃ before after, text = before ++ piece ++ after ∧
    s = ⟨before.utf8ByteSize, before.utf8ByteSize + piece.utf8ByteSize⟩

namespace Template

/-! ### Rendering -/

@[simp] theorem render_nil : (Template.mk []).render = "" := by
  simp [render]

/-- Segments are written one after another. -/
@[simp] theorem render_cons (segment : Segment) (rest : List Segment) :
    (Template.mk (segment :: rest)).render = segment.render ++ (Template.mk rest).render := by
  simp [render]

/-- Two runs of segments are written one after the other. -/
theorem render_append (first rest : List Segment) :
    (Template.mk (first ++ rest)).render =
      (Template.mk first).render ++ (Template.mk rest).render := by
  simp [render]

/-- The characters of a block are its content within its marks. -/
theorem toList_render_block (b : Block) :
    (Segment.block b).render.toList = enclose b.content.toList := by
  simp [Segment.render]

/-- The literal of a text is written as that text. -/
theorem render_literalOf (cs : List Char) :
    (Template.mk (literalOf cs)).render = String.ofList cs := by
  cases cs with
  | nil => simp [literalOf]
  | cons c rest => simp [literalOf, Segment.render]

/-- Rendering the segments of a text gives the text back. -/
theorem render_scanFrom (start : Nat) (cs : List Char) :
    (Template.mk (scanFrom start cs)).render = String.ofList cs := by
  fun_induction scanFrom start cs with
  | case1 start cs _ => exact render_literalOf cs
  | case2 start cs before content after hfirst opening closing ih =>
    rw [render_append, render_cons, ih, render_literalOf, eq_of_firstBlock?_eq_some hfirst]
    simp [Segment.render]

/-! ### The canonical form -/

/-- The conditions on a list of segments that begins at byte `start`. -/
structure CanonicalFrom (start : Nat) (segments : List Segment) : Prop where
  literal_ne_empty : .literal "" ∉ segments
  literals_apart : ∀ before s t after, segments ≠ before ++ .literal s :: .literal t :: after
  block_inner : ∀ b, .block b ∈ segments → Inner b.content.toList
  block_span : ∀ before b after, segments = before ++ .block b :: after →
    b.span = ⟨start + (Template.mk before).render.utf8ByteSize,
      start + (Template.mk before).render.utf8ByteSize + (Segment.block b).render.utf8ByteSize⟩
  literal_unclosed : ∀ before s after, segments = before ++ .literal s :: after →
    Unclosed s.toList (Template.mk after).render.toList

/-- A template in the form that scanning gives it. -/
def Canonical (t : Template) : Prop :=
  CanonicalFrom 0 t.segments

/-- What is asked of a segment that begins at byte `start`, given the segments after it. -/
def Fits (start : Nat) (rest : List Segment) : Segment → Prop
  | .literal s => s ≠ "" ∧ (∀ t after, rest ≠ .literal t :: after) ∧
      Unclosed s.toList (Template.mk rest).render.toList
  | .block b => Inner b.content.toList ∧
      b.span = ⟨start, start + (Segment.block b).render.utf8ByteSize⟩

theorem canonicalFrom_nil (start : Nat) : CanonicalFrom start [] := by
  constructor <;> simp

/-- The first segment of a canonical list fits. -/
theorem CanonicalFrom.fits {start : Nat} {segment : Segment} {rest : List Segment}
    (h : CanonicalFrom start (segment :: rest)) : Fits start rest segment := by
  cases segment with
  | literal s =>
    refine ⟨?_, ?_, h.literal_unclosed [] s rest rfl⟩
    · rintro rfl
      exact h.literal_ne_empty List.mem_cons_self
    · rintro t after rfl
      exact h.literals_apart [] s t after rfl
  | block b =>
    refine ⟨h.block_inner b List.mem_cons_self, ?_⟩
    simpa using h.block_span [] b rest rfl

/-- The segments after the first one are canonical from where it ends. -/
theorem CanonicalFrom.tail {start : Nat} {segment : Segment} {rest : List Segment}
    (h : CanonicalFrom start (segment :: rest)) :
    CanonicalFrom (start + segment.render.utf8ByteSize) rest where
  literal_ne_empty hmem := h.literal_ne_empty (List.mem_cons_of_mem _ hmem)
  literals_apart before s t after heq :=
    h.literals_apart (segment :: before) s t after (by rw [heq]; rfl)
  block_inner b hmem := h.block_inner b (List.mem_cons_of_mem _ hmem)
  block_span before b after heq := by
    have hspan := h.block_span (segment :: before) b after (by rw [heq]; rfl)
    rw [hspan, render_cons, String.utf8ByteSize_append, ← Nat.add_assoc]
  literal_unclosed before s after heq :=
    h.literal_unclosed (segment :: before) s after (by rw [heq]; rfl)

/-- A segment that fits can be put before a canonical list. -/
theorem CanonicalFrom.cons {start : Nat} {segment : Segment} {rest : List Segment}
    (hfits : Fits start rest segment)
    (h : CanonicalFrom (start + segment.render.utf8ByteSize) rest) :
    CanonicalFrom start (segment :: rest) where
  literal_ne_empty hmem := by
    rcases List.mem_cons.mp hmem with rfl | hmem
    · exact hfits.1 rfl
    · exact h.literal_ne_empty hmem
  literals_apart before s t after heq := by
    cases before with
    | nil =>
      obtain ⟨rfl, rfl⟩ := List.cons.inj heq
      exact hfits.2.1 t after rfl
    | cons head before =>
      exact h.literals_apart before s t after (List.cons.inj heq).2
  block_inner b hmem := by
    rcases List.mem_cons.mp hmem with rfl | hmem
    · exact hfits.1
    · exact h.block_inner b hmem
  block_span before b after heq := by
    cases before with
    | nil =>
      obtain ⟨rfl, rfl⟩ := List.cons.inj heq
      simpa using hfits.2
    | cons head before =>
      obtain ⟨rfl, rfl⟩ := List.cons.inj heq
      rw [h.block_span before b after rfl, render_cons, String.utf8ByteSize_append,
        ← Nat.add_assoc]
  literal_unclosed before s after heq := by
    cases before with
    | nil =>
      obtain ⟨rfl, rfl⟩ := List.cons.inj heq
      exact hfits.2.2
    | cons head before =>
      exact h.literal_unclosed before s after (List.cons.inj heq).2

/-- The recursive form of the conditions. -/
theorem canonicalFrom_cons_iff {start : Nat} {segment : Segment} {rest : List Segment} :
    CanonicalFrom start (segment :: rest) ↔
      Fits start rest segment ∧ CanonicalFrom (start + segment.render.utf8ByteSize) rest :=
  ⟨fun h => ⟨h.fits, h.tail⟩, fun h => h.2.cons h.1⟩

/-! ### Scanning gives a canonical template -/

/-- The literal of an unclosed text can be put before canonical segments that begin with none. -/
theorem CanonicalFrom.literalOf_append {start : Nat} {cs : List Char} {rest : List Segment}
    (hrest : ∀ t after, rest ≠ .literal t :: after)
    (hunclosed : Unclosed cs (Template.mk rest).render.toList)
    (h : CanonicalFrom (start + byteSize cs) rest) :
    CanonicalFrom start (literalOf cs ++ rest) := by
  cases cs with
  | nil => simpa [literalOf] using h
  | cons c cs =>
    have hsize : (Segment.literal (String.ofList (c :: cs))).render.utf8ByteSize =
        byteSize (c :: cs) := Text.utf8ByteSize_ofList _
    refine CanonicalFrom.cons ⟨?_, hrest, ?_⟩ ?_
    · intro hempty
      simpa using congrArg String.toList hempty
    · simpa using hunclosed
    · rw [hsize]
      exact h

/-- The segments that are scanned from a text are canonical. -/
theorem canonicalFrom_scanFrom (start : Nat) (cs : List Char) :
    CanonicalFrom start (scanFrom start cs) := by
  fun_induction scanFrom start cs with
  | case1 start cs hnone =>
    rw [← List.append_nil (literalOf cs)]
    refine CanonicalFrom.literalOf_append (by simp) ?_ (canonicalFrom_nil _)
    simpa using firstBlock?_eq_none_iff.mp hnone
  | case2 start cs before content after hfirst opening closing ih =>
    obtain ⟨-, hinner, hunclosed⟩ := firstBlock?_eq_some_iff.mp hfirst
    have hrender : (Segment.block ⟨String.ofList content, ⟨opening, closing⟩⟩).render =
        String.ofList (enclose content) := by
      simp [Segment.render]
    have hsize : opening + (String.ofList (enclose content)).utf8ByteSize = closing := by
      rw [Text.utf8ByteSize_ofList]
    refine CanonicalFrom.literalOf_append (by simp) ?_ (CanonicalFrom.cons ⟨?_, ?_⟩ ?_)
    · rw [render_cons, hrender, render_scanFrom]
      simpa using hunclosed
    · simpa using hinner
    · rw [hrender, hsize]
    · rw [hrender, hsize]
      exact ih

/-! ### A canonical template is the one that scanning gives -/

/-- Scanning takes a block off the front of a text. -/
theorem scanFrom_enclose {content : List Char} (h : Inner content) (start : Nat)
    (after : List Char) :
    scanFrom start (enclose content ++ after) =
      .block ⟨String.ofList content, ⟨start, start + byteSize (enclose content)⟩⟩ ::
        scanFrom (start + byteSize (enclose content)) after := by
  rw [scanFrom_of_some (firstBlock?_enclose h after)]
  simp [literalOf]

/-- Scanning takes an unclosed text off the front of a block as a literal. -/
theorem scanFrom_append_enclose {text content after : List Char} (h : Inner content)
    (hunclosed : Unclosed text (enclose content ++ after)) (start : Nat) :
    scanFrom start (text ++ (enclose content ++ after)) =
      literalOf text ++ scanFrom (start + byteSize text) (enclose content ++ after) := by
  have hfirst : firstBlock? (text ++ (enclose content ++ after)) = some (text, content, after) :=
    firstBlock?_eq_some_iff.mpr ⟨by simp, h, hunclosed⟩
  rw [scanFrom_of_some hfirst, scanFrom_enclose h]

/-- The characters of a text that is not empty make one literal. -/
theorem literalOf_toList {s : String} (h : s ≠ "") : literalOf s.toList = [.literal s] := by
  cases hs : s.toList with
  | nil => exact absurd (String.toList_inj.mp (by simpa using hs)) h
  | cons c cs => rw [literalOf, ← hs, String.ofList_toList]

/-- The characters of a text take up as many bytes as the text. -/
theorem byteSize_toList (s : String) : byteSize s.toList = s.utf8ByteSize := by
  rw [← Text.utf8ByteSize_ofList, String.ofList_toList]

/-- A text that is one block is scanned as that block. -/
theorem parse_enclose {content : String} (h : Inner content.toList) :
    parse ("@\x7b" ++ content ++ "\x7d") =
      ⟨[.block ⟨content, ⟨0, ("@\x7b" ++ content ++ "\x7d").utf8ByteSize⟩⟩]⟩ := by
  have htext : ("@\x7b" ++ content ++ "\x7d").toList = enclose content.toList := by
    simp [enclose]
  have hscan := scanFrom_enclose h 0 []
  rw [List.append_nil, ← htext, byteSize_toList, String.ofList_toList, Nat.zero_add] at hscan
  unfold parse
  rw [hscan, scanFrom_of_none rfl]
  rfl

/-- Scanning the rendering of canonical segments gives them back. -/
theorem scanFrom_render {start : Nat} {segments : List Segment}
    (h : CanonicalFrom start segments) :
    scanFrom start (Template.mk segments).render.toList = segments := by
  induction segments generalizing start with
  | nil => exact scanFrom_of_none rfl
  | cons segment rest ih =>
    obtain ⟨hfits, hrest⟩ := canonicalFrom_cons_iff.mp h
    have hscan := ih hrest
    rw [render_cons, String.toList_append]
    cases segment with
    | literal s =>
      obtain ⟨hne, hapart, hunclosed⟩ := hfits
      rw [Segment.render, ← byteSize_toList] at hscan
      cases rest with
      | nil =>
        have hnone := firstBlock?_eq_none_iff.mpr (by simpa using hunclosed)
        rw [render_nil, Segment.render, String.toList_empty, List.append_nil,
          scanFrom_of_none hnone, literalOf_toList hne]
      | cons next rest =>
        cases next with
        | literal t => exact absurd rfl (hapart t rest)
        | block b =>
          have hinner := (canonicalFrom_cons_iff.mp hrest).1.1
          rw [render_cons, String.toList_append, toList_render_block] at hunclosed hscan ⊢
          rw [Segment.render, scanFrom_append_enclose hinner hunclosed, hscan,
            literalOf_toList hne]
          rfl
    | block b =>
      obtain ⟨hinner, hspan⟩ := hfits
      have hsize : (Segment.block b).render.utf8ByteSize = byteSize (enclose b.content.toList) := by
        rw [← toList_render_block, byteSize_toList]
      rw [hsize] at hscan hspan
      rw [toList_render_block, scanFrom_enclose hinner, hscan, ← hspan, String.ofList_toList]

/-! ### Blocks and the bytes of the text -/

/-- Every block of a template comes from its text: its span cuts it out. -/
theorem cuts_of_mem_parse {text : String} {b : Block}
    (h : .block b ∈ (parse text).segments) :
    b.span.Cuts text (Segment.block b).render := by
  obtain ⟨before, after, hsegments⟩ := List.append_of_mem h
  have hspan := (canonicalFrom_scanFrom 0 text.toList).block_span before b after hsegments
  have htext : (Template.mk (before ++ .block b :: after)).render = text := by
    rw [← hsegments]
    exact (render_scanFrom 0 text.toList).trans String.ofList_toList
  refine ⟨(Template.mk before).render, (Template.mk after).render, ?_, ?_⟩
  · rw [← htext, render_append, render_cons, String.append_assoc]
  · rw [hspan, Nat.zero_add]

/-! ### Texts without blocks -/

/-- A literal expands to itself, and nothing is noticed. -/
theorem expandSegments_literalOf (s : Setting) (cs : List Char) :
    s.expandSegments (literalOf cs) = pure (.ok (String.ofList cs)) := by
  cases cs with
  | nil => rfl
  | cons c rest =>
    simp only [literalOf, Setting.expandSegments, Setting.expandSegment, pure_bind,
      String.append_empty]

/-- A text without a closed opening evaluates to itself, without a warning. -/
theorem evaluate_of_unclosed {text : String} (h : Unclosed text.toList []) (registry : Registry)
    (params : Params) : (parse text).evaluate registry params = (.ok text, []) := by
  have hparse : (parse text).segments = literalOf text.toList :=
    scanFrom_of_none (firstBlock?_eq_none_iff.mpr h)
  have hrun (s : Setting) : s.expandTemplate (parse text) = pure (.ok text) := by
    rw [Setting.expandTemplate, hparse, expandSegments_literalOf, String.ofList_toList]
  simp [evaluate, Context.perform, hrun, Context.keepAll, Context.fresh]

/-! ### The inverse -/

/-- Scanning and rendering are inverse to each other between texts and canonical templates. In
particular a text none of whose openings is closed on its line is one literal, and expands to
itself. -/
theorem parse_inverse_render :
    (∀ text, (parse text).render = text ∧ (parse text).Canonical) ∧
    (∀ t : Template, t.Canonical → parse t.render = t) ∧
    (∀ text : String, Unclosed text.toList [] → ∀ registry params,
      (parse text).evaluate registry params = (.ok text, [])) := by
  refine ⟨fun text => ⟨?_, canonicalFrom_scanFrom 0 text.toList⟩, fun t ht => ?_,
    fun text hunclosed => evaluate_of_unclosed hunclosed⟩
  · exact (render_scanFrom 0 text.toList).trans String.ofList_toList
  · unfold parse
    rw [scanFrom_render ht]

/-- The inverse at a template with an at sign before an opening, an opening inside a block and one
before a line end, and at a text whose only opening is closed on the next line. -/
theorem parse_inverse_render_overlapping :
    parse "@@\x7bé@\x7bb\x7d\n@\x7b" =
      ⟨[.literal "@", .block ⟨"é@\x7bb", ⟨1, 9⟩⟩, .literal "\n@\x7b"]⟩ ∧
    (parse "@\x7bvar=n\n\x7d").evaluate Registry.builtin ∅ = (.ok "@\x7bvar=n\n\x7d", []) := by
  have hfirst : firstBlock? "@@\x7bé@\x7bb\x7d\n@\x7b".toList =
      some (['@'], "é@\x7bb".toList, "\n@\x7b".toList) := by decide
  refine ⟨parse_inverse_render.2.1 ⟨[.literal "@", .block ⟨"é@\x7bb", ⟨1, 9⟩⟩,
    .literal "\n@\x7b"]⟩ ?_, parse_inverse_render.2.2 _ ?_ _ _⟩
  · refine CanonicalFrom.cons ⟨by decide, by simp, ?_⟩ (CanonicalFrom.cons ⟨by decide, by decide⟩
      (CanonicalFrom.cons ⟨by decide, by simp, ?_⟩ (canonicalFrom_nil _)))
    · exact (firstBlock?_eq_some_iff.mp hfirst).2.2
    · exact firstBlock?_eq_none_iff.mp rfl
  · exact firstBlock?_eq_none_iff.mp (by decide)

end Template

end Phrasebook
