import Phrasebook.Text.Bytes

/-!
# Templates

A template is literal text with blocks in it. A block opens with `@{` and runs to the first closing
brace, which has to stand on the same line; an opening without one is literal text. Scanning finds
the leftmost complete block, again and again, so that no literal holds one and no two literals are
neighbours.
-/

namespace Phrasebook

open Text (Span byteSize)

/-- A block of a template: what stands between its braces, and the bytes it occupies, marks
included. -/
structure Block where
  content : String
  span : Span
  deriving DecidableEq, Repr

/-- A piece of a template. -/
inductive Segment where
  | literal (text : String)
  | block (b : Block)
  deriving DecidableEq, Repr

/-- A template: its segments from left to right. -/
structure Template where
  segments : List Segment
  deriving DecidableEq, Repr

namespace Template

/-- The characters that cannot stand inside a block. -/
def endsContent (c : Char) : Bool :=
  c = '\x7d' || c = '\n' || c = '\r'

/-! ### Scanning -/

/-- The content of the block that begins a text, and the text after it. -/
def blockAt? : List Char → Option (List Char × List Char)
  | '@' :: '\x7b' :: inside =>
    match inside.dropWhile (!endsContent ·) with
    | '\x7d' :: rest => some (inside.takeWhile (!endsContent ·), rest)
    | _ => none
  | _ => none

/-- A text taken apart at its leftmost complete block: the text before, the content, the text
after. -/
def firstBlock? : List Char → Option (List Char × List Char × List Char)
  | [] => none
  | c :: rest =>
    match blockAt? (c :: rest) with
    | some (content, after) => some ([], content, after)
    | none =>
      (firstBlock? rest).map fun (before, content, after) => (c :: before, content, after)

/-- A block in its braces. -/
def enclose (content : List Char) : List Char :=
  '@' :: '\x7b' :: content ++ ['\x7d']

/-- A block that is found at the front of a text is its braces with the content, and then the rest.
-/
theorem eq_of_blockAt?_eq_some {cs content after : List Char}
    (h : blockAt? cs = some (content, after)) : cs = enclose content ++ after := by
  unfold blockAt? at h
  split at h
  · next inside =>
    split at h
    · next rest hdrop =>
      simp only [Option.some.injEq, Prod.mk.injEq] at h
      obtain ⟨rfl, rfl⟩ := h
      have hsplit : inside = inside.takeWhile (!endsContent ·) ++ '\x7d' :: rest := by
        rw [← hdrop, List.takeWhile_append_dropWhile]
      simpa [enclose] using hsplit
    · simp at h
  · simp at h

/-- Taking a text apart at a block loses nothing. -/
theorem eq_of_firstBlock?_eq_some {cs before content after : List Char}
    (h : firstBlock? cs = some (before, content, after)) :
    cs = before ++ enclose content ++ after := by
  induction cs generalizing before with
  | nil => simp [firstBlock?] at h
  | cons c rest ih =>
    rw [firstBlock?] at h
    split at h
    · next hb =>
      simp only [Option.some.injEq, Prod.mk.injEq] at h
      obtain ⟨rfl, rfl, rfl⟩ := h
      simpa using eq_of_blockAt?_eq_some hb
    · obtain ⟨⟨b, k, a⟩, hfirst, heq⟩ := Option.map_eq_some_iff.1 h
      simp only [Prod.mk.injEq] at heq
      obtain ⟨rfl, rfl, rfl⟩ := heq
      rw [ih hfirst]
      simp

/-- The literal segment of a text; the empty text has none. -/
def literalOf : List Char → List Segment
  | [] => []
  | c :: rest => [.literal (String.ofList (c :: rest))]

/-- The segments of a text that begins at byte `start`. -/
def scanFrom (start : Nat) (cs : List Char) : List Segment :=
  match _h : firstBlock? cs with
  | none => literalOf cs
  | some (before, content, after) =>
    let opening := start + byteSize before
    let closing := opening + byteSize (enclose content)
    literalOf before ++ .block ⟨String.ofList content, ⟨opening, closing⟩⟩ ::
      scanFrom closing after
termination_by cs.length
decreasing_by
  have := congrArg List.length (eq_of_firstBlock?_eq_some _h)
  simp only [enclose, List.length_append, List.length_cons] at this
  omega

/-- The template written by a text. -/
def parse (text : String) : Template :=
  ⟨scanFrom 0 text.toList⟩

/-! ### Parts -/

/-- The blocks of a template. -/
def blocks (t : Template) : List Block :=
  t.segments.filterMap fun
    | .literal _ => none
    | .block b => some b

end Template

namespace Segment

/-- The text a segment was written as. -/
def render : Segment → String
  | .literal text => text
  | .block b => String.ofList (Template.enclose b.content.toList)

end Segment

namespace Template

/-- The text a template was written as. -/
def render (t : Template) : String :=
  String.join (t.segments.map Segment.render)

end Template

end Phrasebook
