import Phrasebook.Proofs.Template.Canonical

/-!
# Templates are scanned line by line

A block does not reach over a line end, so what stands after a line end has no say in which blocks
come before it, nor what stands before it in which blocks come after (`firstBlock?_append_lineEnd`).
Hence the segments of a text are those of the part up to a line end, the line end, and those of the
part after it, moved by the bytes before them (`scanFrom_append_lineEnd`). Only literals reach over
line ends: neighbouring ones are merged (`mergeLiterals`).
-/

namespace Phrasebook

open Text (Span byteSize byteSize_append)

/-- A span moved to the right by a number of bytes. -/
def Text.Span.shift (k : Nat) (s : Span) : Span :=
  ⟨s.start + k, s.stop + k⟩

/-- A segment moved to the right by a number of bytes. -/
def Segment.shift (k : Nat) : Segment → Segment
  | .literal text => .literal text
  | .block b => .block { b with span := b.span.shift k }

namespace Template

/-! ### Merging literals -/

/-- A text put before segments, as a part of their first literal or as a literal of its own. -/
def prepend (cs : List Char) : List Segment → List Segment
  | .literal text :: rest => .literal (String.ofList cs ++ text) :: rest
  | segments => literalOf cs ++ segments

/-- The segments with each run of neighbouring literals made one. -/
def mergeLiterals : List Segment → List Segment
  | [] => []
  | .literal text :: rest => prepend text.toList (mergeLiterals rest)
  | .block b :: rest => .block b :: mergeLiterals rest

/-- Nothing put before segments leaves them as they are. -/
@[simp] theorem prepend_nil (segments : List Segment) : prepend [] segments = segments := by
  cases segments with
  | nil => rfl
  | cons segment rest => cases segment <;> simp [prepend, literalOf]

theorem prepend_block (cs : List Char) (b : Block) (rest : List Segment) :
    prepend cs (.block b :: rest) = literalOf cs ++ .block b :: rest := rfl

/-- Before a literal a text becomes a part of it. -/
theorem prepend_literalOf (cs ds : List Char) (segments : List Segment)
    (h : ∀ text rest, segments ≠ .literal text :: rest) :
    prepend cs (literalOf ds ++ segments) = literalOf (cs ++ ds) ++ segments := by
  cases ds with
  | nil =>
    rw [List.append_nil]
    cases segments with
    | nil => rfl
    | cons segment rest =>
      cases segment with
      | literal text => exact absurd rfl (h text rest)
      | block b => rfl
  | cons d ds =>
    cases cs <;> simp [prepend, literalOf, String.ofList_append, String.append_assoc]

/-- Two texts are put before segments as one. -/
theorem prepend_prepend (cs ds : List Char) (segments : List Segment) :
    prepend cs (prepend ds segments) = prepend (cs ++ ds) segments := by
  cases segments with
  | nil => exact prepend_literalOf cs ds [] (by simp)
  | cons segment rest =>
    cases segment with
    | literal text => simp [prepend, String.ofList_append, String.append_assoc]
    | block b => exact prepend_literalOf cs ds _ (by simp)

/-- A literal at the front is put before the merged segments. -/
theorem mergeLiterals_literalOf (cs : List Char) (segments : List Segment) :
    mergeLiterals (literalOf cs ++ segments) = prepend cs (mergeLiterals segments) := by
  cases cs with
  | nil => simp [literalOf]
  | cons c cs => simp [literalOf, mergeLiterals]

/-- The segments of a text have no neighbouring literals. -/
theorem mergeLiterals_scanFrom (start : Nat) (cs : List Char) :
    mergeLiterals (scanFrom start cs) = scanFrom start cs := by
  fun_induction scanFrom start cs with
  | case1 start cs _ =>
    have hmerge := mergeLiterals_literalOf cs []
    simpa [mergeLiterals, prepend] using hmerge
  | case2 start cs before content after _ opening closing ih =>
    rw [mergeLiterals_literalOf, mergeLiterals, ih, prepend_block]

/-! ### Blocks and line ends -/

/-- The bytes of a text are those of its leftmost block and of what stands around it. -/
theorem byteSize_of_firstBlock? {cs before content rest : List Char}
    (h : firstBlock? cs = some (before, content, rest)) :
    byteSize cs = byteSize before + byteSize (enclose content) + byteSize rest := by
  rw [eq_of_firstBlock?_eq_some h, byteSize_append, byteSize_append]

section

variable {c : Char} (hc : c = '\n' ∨ c = '\r')

include hc

/-- No block in its braces holds a line end. -/
theorem lineEnd_not_mem_enclose {content : List Char} (h : Inner content) :
    c ∉ enclose content := by
  intro hmem
  have hcontent : c ∈ content := by
    rcases hc with rfl | rfl <;> simpa [enclose] using hmem
  have hends : endsContent c = true := by
    rcases hc with rfl | rfl <;> rfl
  rw [h c hcontent] at hends
  cases hends

/-- A line end is passed over by the search for blocks. -/
theorem firstBlock?_lineEnd_cons (after : List Char) :
    firstBlock? (c :: after) =
      (firstBlock? after).map fun (before, content, rest) => (c :: before, content, rest) := by
  have hat : c ≠ '@' := by
    rcases hc with rfl | rfl <;> decide
  rw [firstBlock?, blockAt?_cons_of_ne hat]

/-- A line end and what follows it neither change the block that begins a text nor complete one. -/
theorem blockAt?_append_lineEnd (cs after : List Char) :
    blockAt? (cs ++ c :: after) =
      (blockAt? cs).map fun (content, rest) => (content, rest ++ c :: after) := by
  cases hblock : blockAt? cs with
  | some found =>
    obtain ⟨content, rest⟩ := found
    rw [eq_of_blockAt?_eq_some hblock, List.append_assoc,
      blockAt?_enclose (inner_of_blockAt? hblock)]
    rfl
  | none =>
    -- a block of the longer text would end before the line end or else hold it
    rw [Option.map_none]
    by_contra hsome
    obtain ⟨⟨content, rest⟩, hfound⟩ := Option.ne_none_iff_exists'.mp hsome
    have hinner := inner_of_blockAt? hfound
    rcases List.append_eq_append_iff.mp (eq_of_blockAt?_eq_some hfound) with
      ⟨inside, henclose, hafter⟩ | ⟨others, hcs, -⟩
    · cases inside with
      | nil =>
        have hcs : blockAt? (enclose content ++ []) = some (content, []) :=
          blockAt?_enclose hinner []
        rw [henclose, List.append_nil, List.append_nil, hblock] at hcs
        cases hcs
      | cons d inside =>
        obtain ⟨rfl, -⟩ := List.cons.inj hafter
        refine lineEnd_not_mem_enclose hc hinner ?_
        rw [henclose]
        exact List.mem_append_right _ List.mem_cons_self
    · rw [hcs, blockAt?_enclose hinner] at hblock
      cases hblock

/-- The leftmost block of a text with a line end in it is the leftmost one before the line end, or
else the leftmost one after it. -/
theorem firstBlock?_append_lineEnd (cs after : List Char) :
    firstBlock? (cs ++ c :: after) =
      match firstBlock? cs with
      | some (before, content, rest) => some (before, content, rest ++ c :: after)
      | none =>
        (firstBlock? after).map fun (before, content, rest) =>
          (cs ++ c :: before, content, rest) := by
  induction cs with
  | nil => exact firstBlock?_lineEnd_cons hc after
  | cons d cs ih =>
    rw [List.cons_append, firstBlock?, ← List.cons_append, blockAt?_append_lineEnd hc, firstBlock?]
    cases hblock : blockAt? (d :: cs) with
    | some found => rfl
    | none =>
      rw [Option.map_none, ih]
      cases firstBlock? cs with
      | some found => rfl
      | none =>
        cases firstBlock? after <;> rfl

/-- The segments of a text up to a line end, where the text before it has no block. -/
theorem scanFrom_append_lineEnd_of_none {cs : List Char} (h : firstBlock? cs = none)
    (start : Nat) (after : List Char) :
    scanFrom start (cs ++ c :: after) =
      prepend (cs ++ [c]) (scanFrom (start + byteSize (cs ++ [c])) after) := by
  have hfirst := firstBlock?_append_lineEnd hc cs after
  rw [h] at hfirst
  cases hafter : firstBlock? after with
  | none =>
    rw [hafter] at hfirst
    rw [scanFrom_of_none hfirst, scanFrom_of_none hafter]
    have hliteral := prepend_literalOf (cs ++ [c]) after [] (by simp)
    simpa using hliteral.symm
  | some found =>
    obtain ⟨before, content, rest⟩ := found
    rw [hafter] at hfirst
    rw [scanFrom_of_some hfirst, scanFrom_of_some hafter, prepend_literalOf _ _ _ (by simp)]
    simp [Nat.add_assoc]

/-- The segments of a text up to a line end, where a block comes before it. -/
theorem scanFrom_append_lineEnd_of_some {cs before content rest : List Char}
    (h : firstBlock? cs = some (before, content, rest)) (start : Nat) (after : List Char) :
    scanFrom start (cs ++ c :: after) =
      literalOf before ++
        .block ⟨String.ofList content, ⟨start + byteSize before,
          start + byteSize before + byteSize (enclose content)⟩⟩ ::
        scanFrom (start + byteSize before + byteSize (enclose content)) (rest ++ c :: after) := by
  have hfirst := firstBlock?_append_lineEnd hc cs after
  rw [h] at hfirst
  exact scanFrom_of_some hfirst

/-- The segments of a text are those up to a line end, the line end, and those after it, with
neighbouring literals merged. -/
theorem scanFrom_append_lineEnd (start : Nat) (cs after : List Char) :
    scanFrom start (cs ++ c :: after) =
      mergeLiterals (scanFrom start cs ++
        .literal (String.ofList [c]) :: scanFrom (start + byteSize (cs ++ [c])) after) := by
  fun_induction scanFrom start cs with
  | case1 start cs hnone =>
    rw [scanFrom_append_lineEnd_of_none hc hnone, mergeLiterals_literalOf, mergeLiterals,
      mergeLiterals_scanFrom, prepend_prepend, String.toList_ofList]
  | case2 start cs before content rest hfirst opening closing ih =>
    have hsize : start + byteSize (cs ++ [c]) = closing + byteSize (rest ++ [c]) := by
      rw [byteSize_append, byteSize_append, byteSize_of_firstBlock? hfirst]
      omega
    rw [scanFrom_append_lineEnd_of_some hc hfirst, hsize, List.append_assoc,
      mergeLiterals_literalOf, List.cons_append, mergeLiterals, ← ih, prepend_block]

end

/-! ### Moving segments -/

/-- A literal has no place that could be moved. -/
theorem map_shift_literalOf (k : Nat) (cs : List Char) :
    (literalOf cs).map (Segment.shift k) = literalOf cs := by
  cases cs <;> rfl

/-- The segments of a text that begins further right. -/
theorem scanFrom_add (k start : Nat) (cs : List Char) :
    scanFrom (start + k) cs = (scanFrom start cs).map (Segment.shift k) := by
  fun_induction scanFrom start cs with
  | case1 start cs hnone => rw [scanFrom_of_none hnone, map_shift_literalOf]
  | case2 start cs before content rest hfirst opening closing ih =>
    have hopening : start + k + byteSize before = opening + k := by
      simp only [opening]
      omega
    have hclosing : opening + k + byteSize (enclose content) = closing + k := by
      simp only [closing]
      omega
    rw [scanFrom_of_some hfirst, hopening, hclosing, ih, List.map_append, map_shift_literalOf]
    rfl

/-! ### Two texts and a line end between them -/

section

variable {c : Char} (hc : c = '\n' ∨ c = '\r') (a b : String)

/-- The characters of two lines have the line end between them. -/
theorem toList_lineEnd :
    (a ++ String.singleton c ++ b).toList = a.toList ++ c :: b.toList := by
  simp

include hc

/-- A line end takes one byte. -/
theorem byteSize_lineEnd : byteSize (a.toList ++ [c]) = a.utf8ByteSize + 1 := by
  rw [byteSize_append, byteSize_toList]
  rcases hc with rfl | rfl <;> rfl

/-- The segments of a text with a line end in it, from those of its two sides. -/
theorem segments_parse_lineEnd :
    (parse (a ++ String.singleton c ++ b)).segments =
      mergeLiterals ((parse a).segments ++ .literal (String.singleton c) ::
        (parse b).segments.map (Segment.shift (a.utf8ByteSize + 1))) := by
  unfold parse
  rw [toList_lineEnd, scanFrom_append_lineEnd hc, byteSize_lineEnd hc, scanFrom_add,
    String.singleton_eq_ofList]

end

end Template

end Phrasebook
