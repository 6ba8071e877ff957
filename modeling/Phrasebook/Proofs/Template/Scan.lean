import Mathlib.Data.List.TakeWhile
import Phrasebook.Template

/-!
# The leftmost block of a text

What the scanner finds, said without the scanner. A text opens with a block exactly when it is an
opening that is **closed on its line** (`ClosedOnLine`): a closing brace comes before the next line
end. `firstBlock?` takes a text apart at the leftmost block, so the text before that block is
**unclosed** (`Unclosed`): none of the openings in it is closed on its line, the text that follows
counted in. The two descriptions determine each other (`firstBlock?_eq_some_iff`,
`firstBlock?_eq_none_iff`), and `scanFrom` is then unfolded only through them.
-/

namespace Phrasebook.Template

open Text (byteSize)

/-! ### Openings that are closed -/

/-- A closing brace comes before the next line end. -/
def ClosedOnLine (rest : List Char) : Prop :=
  ∃ content after, rest = content ++ '\x7d' :: after ∧ ∀ c ∈ content, c ≠ '\n' ∧ c ≠ '\r'

/-- No opening in `text` is closed on its line, where `after` is what follows `text`. -/
def Unclosed (text after : List Char) : Prop :=
  ∀ before rest, text = before ++ '@' :: '\x7b' :: rest → ¬ ClosedOnLine (rest ++ after)

/-- Characters that may all stand inside a block. -/
def Inner (content : List Char) : Prop :=
  ∀ c ∈ content, endsContent c = false

/-- Whether a text can be the content of a block is decided by its characters. -/
instance : DecidablePred Inner := fun content =>
  decidable_of_iff (content.all (!endsContent ·)) (by simp [Inner])

/-- A character may stand in a block unless it is a closing brace or ends a line. -/
theorem endsContent_eq_false_iff {c : Char} :
    endsContent c = false ↔ c ≠ '\x7d' ∧ c ≠ '\n' ∧ c ≠ '\r' := by
  simp [endsContent, and_assoc]

/-- What is taken up to the end of a content can be the content of a block. -/
theorem inner_takeWhile (cs : List Char) : Inner (cs.takeWhile (!endsContent ·)) := by
  intro c hc
  simpa using List.mem_takeWhile_imp hc

/-- An empty text holds no opening. -/
theorem unclosed_nil (after : List Char) : Unclosed [] after := by
  intro before rest h
  simp at h

/-- What follows the first character of an unclosed text is unclosed. -/
theorem Unclosed.tail {c : Char} {text after : List Char} (h : Unclosed (c :: text) after) :
    Unclosed text after := by
  intro before rest hrest
  exact h (c :: before) rest (by rw [hrest]; rfl)

/-! ### The block that begins a text -/

/-- A content is taken up to the closing brace behind it. -/
theorem takeWhile_inner {content : List Char} (h : Inner content) (rest : List Char) :
    (content ++ '\x7d' :: rest).takeWhile (!endsContent ·) = content := by
  rw [List.takeWhile_append_of_pos fun c hc => by simp [h c hc]]
  simp [endsContent]

/-- What is left behind a content begins with the closing brace. -/
theorem dropWhile_inner {content : List Char} (h : Inner content) (rest : List Char) :
    (content ++ '\x7d' :: rest).dropWhile (!endsContent ·) = '\x7d' :: rest := by
  rw [List.dropWhile_append_of_pos fun c hc => by simp [h c hc]]
  simp [endsContent]

/-- An enclosed text begins with an opening, and its closing brace stands before what follows. -/
theorem enclose_append (content after : List Char) :
    enclose content ++ after = '@' :: '\x7b' :: (content ++ '\x7d' :: after) := by
  simp [enclose]

/-- A block in its braces is found where it begins. -/
theorem blockAt?_enclose {content : List Char} (h : Inner content) (after : List Char) :
    blockAt? (enclose content ++ after) = some (content, after) := by
  rw [enclose_append]
  simp only [blockAt?, dropWhile_inner h, takeWhile_inner h]

/-- What is found as the content of a block may stand inside one. -/
theorem inner_of_blockAt? {cs content after : List Char}
    (h : blockAt? cs = some (content, after)) : Inner content := by
  unfold blockAt? at h
  split at h
  · split at h
    · simp only [Option.some.injEq, Prod.mk.injEq] at h
      obtain ⟨rfl, -⟩ := h
      exact inner_takeWhile _
    · cases h
  · cases h

/-- The content of a closed opening ends at the first brace. -/
theorem closedOnLine_iff {rest : List Char} :
    ClosedOnLine rest ↔ ∃ content after, rest = content ++ '\x7d' :: after ∧ Inner content := by
  constructor
  · rintro ⟨content, after, rfl, hline⟩
    by_cases hbrace : '\x7d' ∈ content
    · obtain ⟨inner, others, rfl, hinner⟩ := List.eq_append_cons_of_mem hbrace
      refine ⟨inner, others ++ '\x7d' :: after, by simp, fun c hc => ?_⟩
      have hne : c ≠ '\x7d' := fun h => hinner (h ▸ hc)
      exact endsContent_eq_false_iff.mpr ⟨hne, hline c (List.mem_append_left _ hc)⟩
    · refine ⟨content, after, rfl, fun c hc => ?_⟩
      have hne : c ≠ '\x7d' := fun h => hbrace (h ▸ hc)
      exact endsContent_eq_false_iff.mpr ⟨hne, hline c hc⟩
  · rintro ⟨content, after, rfl, hinner⟩
    exact ⟨content, after, rfl, fun c hc => (endsContent_eq_false_iff.mp (hinner c hc)).2⟩

/-- After an opening, no block is found exactly when the opening is not closed on its line. -/
theorem blockAt?_opening_eq_none_iff {rest : List Char} :
    blockAt? ('@' :: '\x7b' :: rest) = none ↔ ¬ ClosedOnLine rest := by
  rw [closedOnLine_iff]
  constructor
  · rintro h ⟨content, after, rfl, hinner⟩
    have hfound := blockAt?_enclose hinner after
    rw [enclose_append, h] at hfound
    cases hfound
  · intro h
    by_contra hsome
    obtain ⟨⟨content, after⟩, hfound⟩ := Option.ne_none_iff_exists'.mp hsome
    have heq := eq_of_blockAt?_eq_some hfound
    rw [enclose_append] at heq
    exact h ⟨content, after, (List.cons.inj (List.cons.inj heq).2).2, inner_of_blockAt? hfound⟩

/-- No block begins with any other character. -/
theorem blockAt?_cons_of_ne {c : Char} (h : c ≠ '@') (rest : List Char) :
    blockAt? (c :: rest) = none := by
  unfold blockAt?
  split
  · next heq => exact absurd (List.cons.inj heq).1 h
  · rfl

/-- No block begins with an at sign that no brace follows. -/
theorem blockAt?_at_of_ne {rest : List Char} (h : rest.head? ≠ some '\x7b') :
    blockAt? ('@' :: rest) = none := by
  unfold blockAt?
  split
  · next heq => exact absurd (by rw [(List.cons.inj heq).2]; rfl) h
  · rfl

/-- No block begins in an unclosed text, if what follows cannot complete an opening. -/
theorem blockAt?_eq_none_of_unclosed {c : Char} {text after : List Char}
    (h : Unclosed (c :: text) after) (hafter : after.head? ≠ some '\x7b') :
    blockAt? (c :: text ++ after) = none := by
  by_cases hc : c = '@'
  · subst hc
    cases text with
    | nil => exact blockAt?_at_of_ne (by simpa using hafter)
    | cons d rest =>
      by_cases hd : d = '\x7b'
      · subst hd
        exact blockAt?_opening_eq_none_iff.mpr (h [] rest rfl)
      · exact blockAt?_at_of_ne (by simpa using hd)
  · exact blockAt?_cons_of_ne hc _

/-- Where no block begins, an unclosed text stays unclosed with one more character before it. -/
theorem Unclosed.cons {c : Char} {text after : List Char} (h : Unclosed text after)
    (hnone : blockAt? (c :: text ++ after) = none) : Unclosed (c :: text) after := by
  intro before rest heq
  cases before with
  | nil =>
    obtain ⟨rfl, rfl⟩ := List.cons.inj heq
    exact blockAt?_opening_eq_none_iff.mp hnone
  | cons d before => exact h before rest (List.cons.inj heq).2

/-! ### The leftmost block -/

/-- The search passes over an unclosed text, if what follows cannot complete an opening. -/
theorem firstBlock?_append {text after : List Char} (h : Unclosed text after)
    (hafter : after.head? ≠ some '\x7b') :
    firstBlock? (text ++ after) =
      (firstBlock? after).map fun (before, content, rest) => (text ++ before, content, rest) := by
  induction text with
  | nil => simp
  | cons c text ih =>
    have hnone := blockAt?_eq_none_of_unclosed h hafter
    rw [List.cons_append] at hnone ⊢
    rw [firstBlock?, hnone, ih h.tail, Option.map_map]
    rfl

/-- A block at the front of a text is its first one. -/
theorem firstBlock?_enclose {content : List Char} (h : Inner content) (after : List Char) :
    firstBlock? (enclose content ++ after) = some ([], content, after) := by
  have hfound := blockAt?_enclose h after
  rw [enclose_append] at hfound ⊢
  rw [firstBlock?, hfound]

/-- A text has no block exactly when it is unclosed. -/
theorem firstBlock?_eq_none_iff {cs : List Char} : firstBlock? cs = none ↔ Unclosed cs [] := by
  constructor
  · intro h
    induction cs with
    | nil => exact unclosed_nil []
    | cons c rest ih =>
      rw [firstBlock?] at h
      split at h
      · cases h
      · next hnone =>
        rw [Option.map_eq_none_iff] at h
        exact (ih h).cons (by simpa using hnone)
  · intro h
    simpa [firstBlock?] using firstBlock?_append h (by simp)

/-- The leftmost block is the one with an unclosed text before it. -/
theorem firstBlock?_eq_some_iff {cs before content after : List Char} :
    firstBlock? cs = some (before, content, after) ↔
      cs = before ++ enclose content ++ after ∧ Inner content ∧
        Unclosed before (enclose content ++ after) := by
  constructor
  · intro h
    refine ⟨eq_of_firstBlock?_eq_some h, ?_⟩
    induction cs generalizing before with
    | nil => cases h
    | cons c rest ih =>
      rw [firstBlock?] at h
      split at h
      · next hfound =>
        simp only [Option.some.injEq, Prod.mk.injEq] at h
        obtain ⟨rfl, rfl, rfl⟩ := h
        exact ⟨inner_of_blockAt? hfound, unclosed_nil _⟩
      · next hnone =>
        obtain ⟨⟨b, k, a⟩, hfirst, heq⟩ := Option.map_eq_some_iff.mp h
        simp only [Prod.mk.injEq] at heq
        obtain ⟨rfl, rfl, rfl⟩ := heq
        obtain ⟨hinner, hunclosed⟩ := ih hfirst
        refine ⟨hinner, hunclosed.cons ?_⟩
        rw [eq_of_firstBlock?_eq_some hfirst] at hnone
        simpa using hnone
  · rintro ⟨rfl, hinner, hunclosed⟩
    rw [List.append_assoc, firstBlock?_append hunclosed (by simp [enclose]),
      firstBlock?_enclose hinner after]
    simp

/-! ### The segments of a text -/

/-- A text without a first block is scanned as one literal. -/
theorem scanFrom_of_none {start : Nat} {cs : List Char} (h : firstBlock? cs = none) :
    scanFrom start cs = literalOf cs := by
  rw [scanFrom]
  split
  · rfl
  · next heq => rw [h] at heq; cases heq

/-- A text with a first block is scanned as the literal before it, the block and what follows. -/
theorem scanFrom_of_some {start : Nat} {cs before content after : List Char}
    (h : firstBlock? cs = some (before, content, after)) :
    scanFrom start cs =
      literalOf before ++
        .block ⟨String.ofList content, ⟨start + byteSize before,
          start + byteSize before + byteSize (enclose content)⟩⟩ ::
        scanFrom (start + byteSize before + byteSize (enclose content)) after := by
  rw [scanFrom]
  split
  · next heq => rw [h] at heq; cases heq
  · next heq =>
    rw [h] at heq
    simp only [Option.some.injEq, Prod.mk.injEq] at heq
    obtain ⟨rfl, rfl, rfl⟩ := heq
    rfl

end Phrasebook.Template
