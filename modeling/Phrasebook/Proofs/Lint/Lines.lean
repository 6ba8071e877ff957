import Phrasebook.Lint
import Phrasebook.Proofs.Expansion.Fault
import Phrasebook.Proofs.Template.Lines

/-!
# Templates are expanded and linted line by line

What becomes of the two sides of a line end, put together. The expansion of the whole is that of the
first side, the line end and that of the second side, and it fails as the first side does or else as
the second. The findings in the whole are those in the first side and those in the second, moved to
the right. An opening that is never closed is the delicate case: it is reported up to the end of its
line, which is the end of the text where the first side stands alone.
-/

namespace Phrasebook

open Text (Span byteSize byteSize_append)
open Template (prepend mergeLiterals literalOf)

/-! ### Expansion -/

namespace Setting

variable (s : Setting)

/-- A literal is put before what the segments behind it expand to. -/
theorem result_expandSegments_literal_cons (text : String) (rest : List Segment) :
    (s.expandSegments (.literal text :: rest)).result =
      (s.expandSegments rest).result.map (text ++ ·) :=
  s.result_expandSegments_cons _ rest

/-- The result of segments in two groups, the second of which counts if the first has a text. -/
theorem result_expandSegments_append (first others : List Segment) :
    (s.expandSegments (first ++ others)).result =
      (s.expandSegments first).result.bind fun text =>
        (s.expandSegments others).result.map (text ++ ·) := by
  induction first with
  | nil =>
    rw [List.nil_append, show (s.expandSegments []).result = .ok "" from rfl]
    cases (s.expandSegments others).result <;> simp [Except.bind, Except.map]
  | cons segment rest ih =>
    rw [List.cons_append, result_expandSegments_cons, result_expandSegments_cons, ih]
    cases (s.expandSegment segment).result with
    | error e => rfl
    | ok text =>
      cases (s.expandSegments rest).result with
      | error e => rfl
      | ok later =>
        cases (s.expandSegments others).result <;>
          simp [Except.bind, Except.map, String.append_assoc]

/-- A text put before segments comes out before theirs. -/
theorem result_expandSegments_prepend (cs : List Char) (segments : List Segment) :
    (s.expandSegments (prepend cs segments)).result =
      (s.expandSegments segments).result.map (String.ofList cs ++ ·) := by
  have hliteral (later : List Segment) : (s.expandSegments (literalOf cs ++ later)).result =
      (s.expandSegments later).result.map (String.ofList cs ++ ·) := by
    rw [result_expandSegments_append, Template.expandSegments_literalOf]
    rfl
  cases segments with
  | nil => exact hliteral []
  | cons segment rest =>
    cases segment with
    | block b => exact hliteral _
    | literal text =>
      rw [prepend, result_expandSegments_literal_cons, result_expandSegments_literal_cons]
      cases (s.expandSegments rest).result <;> simp [Except.map, String.append_assoc]

/-- Merging literals leaves the expansion as it is. -/
theorem result_expandSegments_mergeLiterals (segments : List Segment) :
    (s.expandSegments (mergeLiterals segments)).result = (s.expandSegments segments).result := by
  induction segments with
  | nil => rfl
  | cons segment rest ih =>
    cases segment with
    | literal text =>
      rw [mergeLiterals, result_expandSegments_prepend, ih, result_expandSegments_literal_cons,
        String.ofList_toList]
    | block b =>
      rw [mergeLiterals, result_expandSegments_cons, result_expandSegments_cons, ih]

/-- Where the segments stand does not matter to the expansion. -/
theorem result_expandSegments_shift (k : Nat) (segments : List Segment) :
    (s.expandSegments (segments.map (Segment.shift k))).result =
      (s.expandSegments segments).result := by
  induction segments with
  | nil => rfl
  | cons segment rest ih =>
    have hsegment : s.expandSegment (segment.shift k) = s.expandSegment segment := by
      cases segment <;> rfl
    rw [List.map_cons, result_expandSegments_cons, result_expandSegments_cons, hsegment, ih]

end Setting

/-- A text expands line by line, up to the first line that fails. -/
theorem Registry.tryExpand_lineEnd {c : Char} (hc : c = '\n' ∨ c = '\r') (r : Registry)
    (a b : String) (params : Params) :
    r.tryExpand (a ++ String.singleton c ++ b) params =
      match r.tryExpand a params, r.tryExpand b params with
      | .ok x, .ok y => .ok (x ++ String.singleton c ++ y)
      | .error e, _ => .error e
      | .ok _, .error e => .error e := by
  unfold tryExpand Setting.expandText Setting.expandTemplate
  rw [Template.segments_parse_lineEnd hc, Setting.result_expandSegments_mergeLiterals,
    Setting.result_expandSegments_append, Setting.result_expandSegments_literal_cons,
    Setting.result_expandSegments_shift]
  cases ((Setting.mk r params).expandSegments (Template.parse a).segments).result with
  | error e => rfl
  | ok x =>
    cases ((Setting.mk r params).expandSegments (Template.parse b).segments).result with
    | error e => rfl
    | ok y => simp only [Except.bind, Except.map, String.append_assoc]

/-! ### Lint -/

/-- A finding moved to the right by a number of bytes. -/
def Finding.shift (k : Nat) (f : Finding) : Finding :=
  { f with span := f.span.shift k }

namespace Lint

section

variable {c : Char} (hc : c = '\n' ∨ c = '\r')

include hc

/-- What comes up to the first line end of a text is the same if a line end follows the text. -/
theorem takeWhile_append_lineEnd (cs after : List Char) :
    (cs ++ c :: after).takeWhile (!isLineEnd ·) = cs.takeWhile (!isLineEnd ·) := by
  have hend : isLineEnd c = true := by
    rcases hc with rfl | rfl <;> rfl
  induction cs with
  | nil => simp [hend]
  | cons d cs ih => rw [List.cons_append, List.takeWhile_cons, List.takeWhile_cons, ih]

/-- An opening is reported up to the end of its line, whether or not text follows it, and none comes
about at a line end. -/
theorem ofLiteral_append_lineEnd (start : Nat) (cs after : List Char) :
    ofLiteral start (cs ++ c :: after) =
      ofLiteral start cs ++ ofLiteral (start + byteSize (cs ++ [c])) after := by
  have hat : c ≠ '@' := by
    rcases hc with rfl | rfl <;> decide
  have hbrace : c ≠ '\x7b' := by
    rcases hc with rfl | rfl <;> decide
  induction cs generalizing start with
  | nil => simp [ofLiteral, hat]
  | cons d cs ih =>
    have hsize : start + d.utf8Size + byteSize (cs ++ [c]) = start + byteSize (d :: cs ++ [c]) := by
      simp [Nat.add_assoc]
    have hhead : (cs ++ c :: after).head? = some '\x7b' ↔ cs.head? = some '\x7b' := by
      cases cs with
      | nil => simp [hbrace]
      | cons e cs => simp
    have hline := takeWhile_append_lineEnd hc (d :: cs) after
    rw [List.cons_append] at hline
    rw [List.cons_append, ofLiteral, ofLiteral, ih, hsize, hline]
    simp only [hhead]
    split <;> simp

omit hc in
/-- What is found in a literal comes before the findings of the segments behind it, which begin
after its bytes. -/
theorem ofSegments_literalOf_append (known : List String) (start : Nat) (cs : List Char)
    (segments : List Segment) :
    ofSegments known start (literalOf cs ++ segments) =
      ofLiteral start cs ++ ofSegments known (start + byteSize cs) segments := by
  cases cs with
  | nil => rfl
  | cons d cs =>
    rw [literalOf, List.singleton_append, ofSegments, String.toList_ofList,
      Text.utf8ByteSize_ofList]

/-- A text up to a line end and the segments put after it have their findings apart, also where the
first of these becomes one literal with the text. -/
theorem ofSegments_prepend_lineEnd (known : List String) (start : Nat) (cs : List Char)
    (segments : List Segment) :
    ofSegments known start (prepend (cs ++ [c]) segments) =
      ofLiteral start cs ++ ofSegments known (start + byteSize (cs ++ [c])) segments := by
  have hapart (later : List Segment) :
      ofSegments known start (literalOf (cs ++ [c]) ++ later) =
        ofLiteral start cs ++ ofSegments known (start + byteSize (cs ++ [c])) later := by
    rw [ofSegments_literalOf_append, ofLiteral_append_lineEnd hc, ofLiteral, List.append_nil]
  cases segments with
  | nil => exact hapart []
  | cons segment rest =>
    cases segment with
    | block b => exact hapart _
    | literal text =>
      have htext : (String.ofList (cs ++ [c]) ++ text).toList = cs ++ c :: text.toList := by
        simp
      rw [prepend, ofSegments, ofSegments, htext, ofLiteral_append_lineEnd hc,
        String.utf8ByteSize_append, Text.utf8ByteSize_ofList, List.append_assoc, Nat.add_assoc]

/-- The findings in a text with a line end in it are those before the line end and those after. -/
theorem ofSegments_scanFrom_lineEnd (known : List String) (start : Nat) (cs after : List Char) :
    ofSegments known start (Template.scanFrom start (cs ++ c :: after)) =
      ofSegments known start (Template.scanFrom start cs) ++
        ofSegments known (start + byteSize (cs ++ [c]))
          (Template.scanFrom (start + byteSize (cs ++ [c])) after) := by
  fun_induction Template.scanFrom start cs with
  | case1 start cs hnone =>
    -- no block before the line end: its literal may go on after it, its findings do not
    have hliteral := ofSegments_literalOf_append known start cs []
    rw [List.append_nil, ofSegments, List.append_nil] at hliteral
    rw [Template.scanFrom_append_lineEnd_of_none hc hnone, ofSegments_prepend_lineEnd hc, hliteral]
  | case2 start cs before content rest hfirst opening closing ih =>
    have hsize : start + byteSize (cs ++ [c]) = closing + byteSize (rest ++ [c]) := by
      rw [byteSize_append, byteSize_append, Template.byteSize_of_firstBlock? hfirst]
      omega
    rw [Template.scanFrom_append_lineEnd_of_some hc hfirst, ofSegments_literalOf_append,
      ofSegments_literalOf_append, ofSegments, ofSegments, hsize, ih, List.append_assoc,
      List.append_assoc]

end

/-! ### Moving findings -/

/-- What is found in a literal further to the right is shifted. -/
theorem ofLiteral_add (k start : Nat) (cs : List Char) :
    ofLiteral (start + k) cs = (ofLiteral start cs).map (Finding.shift k) := by
  induction cs generalizing start with
  | nil => rfl
  | cons c cs ih =>
    have hnext : start + k + c.utf8Size = start + c.utf8Size + k := by omega
    rw [ofLiteral, ofLiteral, hnext, ih]
    split
    · simp [Finding.shift, Span.shift, Nat.add_right_comm]
    · rfl

/-- The findings in segments further right are further right. -/
theorem ofSegments_shift (known : List String) (k start : Nat) (segments : List Segment) :
    ofSegments known (start + k) (segments.map (Segment.shift k)) =
      (ofSegments known start segments).map (Finding.shift k) := by
  induction segments generalizing start with
  | nil => rfl
  | cons segment rest ih =>
    cases segment with
    | literal text =>
      have hnext : start + k + text.utf8ByteSize = start + text.utf8ByteSize + k := by omega
      rw [List.map_cons, Segment.shift, ofSegments, ofSegments, hnext, ih, ofLiteral_add,
        List.map_append]
    | block b =>
      have hblock : (ofBlock known b.content).map (Finding.mk (b.span.shift k)) =
          ((ofBlock known b.content).map (Finding.mk b.span)).map (Finding.shift k) := by
        rw [List.map_map]
        rfl
      have hstop : (b.span.shift k).stop = b.span.stop + k := rfl
      rw [List.map_cons, Segment.shift, ofSegments, ofSegments, hblock, hstop, ih,
        List.map_append]

end Lint

/-- The findings of a text are those of its lines, shifted to where the lines begin. -/
theorem Registry.lint_lineEnd {c : Char} (hc : c = '\n' ∨ c = '\r') (r : Registry)
    (a b : String) :
    r.lint (a ++ String.singleton c ++ b) =
      r.lint a ++ (r.lint b).map (Finding.shift (a.utf8ByteSize + 1)) := by
  unfold lint Template.lint Template.parse
  rw [Template.toList_lineEnd, Lint.ofSegments_scanFrom_lineEnd hc, Template.byteSize_lineEnd hc,
    Template.scanFrom_add, Lint.ofSegments_shift]

/-- A text with a line end in it is taken line by line. Its segments are those of the two sides with
the line end between them, those of the second side moved to the right, and neighbouring literals
merged; its expansion is that of the two sides with the line end between them, or the error of the
first side, or else that of the second; the findings in it are those in the first side and those in
the second, moved to the right. -/
theorem parse_expand_lint_lineEnd {c : Char} (hc : c = '\n' ∨ c = '\r') (a b : String) :
    (Template.parse (a ++ String.singleton c ++ b)).segments =
      mergeLiterals ((Template.parse a).segments ++ .literal (String.singleton c) ::
        (Template.parse b).segments.map (Segment.shift (a.utf8ByteSize + 1))) ∧
    (∀ (r : Registry) (params : Params),
      r.tryExpand (a ++ String.singleton c ++ b) params =
        match r.tryExpand a params, r.tryExpand b params with
        | .ok x, .ok y => .ok (x ++ String.singleton c ++ y)
        | .error e, _ => .error e
        | .ok _, .error e => .error e) ∧
    (∀ r : Registry,
      r.lint (a ++ String.singleton c ++ b) =
        r.lint a ++ (r.lint b).map (Finding.shift (a.utf8ByteSize + 1))) :=
  ⟨Template.segments_parse_lineEnd hc a b, fun r => r.tryExpand_lineEnd hc a b,
    fun r => r.lint_lineEnd hc a b⟩

/-- The two sides of a line end where the first leaves an opening behind a character of two bytes,
the second begins with a closing brace, and the block after that is malformed. -/
theorem parse_expand_lint_lineEnd_dangling :
    (Template.parse ("é@\x7bvar=n" ++ String.singleton '\n' ++ "\x7d@\x7bref=n\x7d")).segments =
      [.literal "é@\x7bvar=n\n\x7d", .block ⟨"ref=n", ⟨11, 19⟩⟩] ∧
    Registry.builtin.tryExpand ("é@\x7bvar=n" ++ String.singleton '\n' ++ "\x7d@\x7bref=n\x7d") ∅ =
      .error ⟨"ref=n", .missingLogic⟩ ∧
    Registry.builtin.lint ("é@\x7bvar=n" ++ String.singleton '\n' ++ "\x7d@\x7bref=n\x7d") =
      [⟨⟨2, 9⟩, .unterminated⟩, ⟨⟨11, 19⟩, .malformedBlock .missingLogic⟩] := by
  obtain ⟨hparse, hexpand, hlint⟩ :=
    parse_expand_lint_lineEnd (Or.inl rfl) "é@\x7bvar=n" "\x7d@\x7bref=n\x7d"
  rw [hparse, hexpand, hlint]
  decide +kernel

end Phrasebook
