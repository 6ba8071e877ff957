

/-!
# Trimming and splitting text

Blanks are removed at the ends of a text. Two splitters lose nothing of the text they split:
`List.splitOn` cuts at every occurrence of a character; `splitBars` cuts at every `||`, taken from
the left, so that of three bars in a row the third begins the next part.
-/

/-! ## Blank characters and trimming

A character is blank when Unicode gives it the White_Space property. Names, field keys and numbers
are read with the blanks around them removed.
-/

namespace Phrasebook.Text

/-- The White_Space property: the ASCII blanks, the two that Latin-1 adds, and the spaces and
separators of the general punctuation, Ogham and ideographic blocks. -/
def isBlank (c : Char) : Bool :=
  let n := c.toNat
  (0x09 ≤ n && n ≤ 0x0D) || n == 0x20 || n == 0x85 || n == 0xA0 || n == 0x1680 ||
    (0x2000 ≤ n && n ≤ 0x200A) || n == 0x2028 || n == 0x2029 || n == 0x202F || n == 0x205F ||
    n == 0x3000

/-- The text without its leading blanks. -/
def trimStart (cs : List Char) : List Char :=
  cs.dropWhile isBlank

/-- The text without its trailing blanks. -/
def trimEnd (cs : List Char) : List Char :=
  (cs.reverse.dropWhile isBlank).reverse

/-- The text without the blanks at its two ends. -/
def trim (cs : List Char) : List Char :=
  trimEnd (trimStart cs)

/-- Trimming at the front stops at once before a character that is not blank. -/
theorem trimStart_cons_of_not_blank {c : Char} (cs : List Char) (h : isBlank c = false) :
    trimStart (c :: cs) = c :: cs := by
  simp [trimStart, h]

/-- Text without blanks is its own trim. -/
theorem trim_of_forall_not_blank {cs : List Char} (h : ∀ c ∈ cs, isBlank c = false) :
    trim cs = cs := by
  have hkept {l : List Char} (hl : ∀ c ∈ l, isBlank c = false) : l.dropWhile isBlank = l := by
    cases l with
    | nil => rfl
    | cons c rest => rw [List.dropWhile_cons_of_neg (by simp [hl c List.mem_cons_self])]
  unfold trim trimStart trimEnd
  rw [hkept h, hkept fun c hc => h c (List.mem_reverse.mp hc), List.reverse_reverse]

/-! ## Splitting -/

/-- Core's search for a part of a text, whichever others are in scope. -/
instance decidableInfix (pattern cs : List Char) : Decidable (pattern <:+: cs) :=
  List.instDecidableIsInfixOfDecidableEq pattern cs

/-- Puts a character at the front of the first part. -/
def consHead (c : Char) : List (List Char) → List (List Char)
  | [] => [[c]]
  | part :: parts => (c :: part) :: parts

/-- The parts of a text between its `||` separators, empty ones kept. -/
def splitBars : List Char → List (List Char)
  | [] => [[]]
  | '|' :: '|' :: rest => [] :: splitBars rest
  | c :: rest => consHead c (splitBars rest)

/-- The empty text is one empty part. -/
theorem splitBars_nil : splitBars [] = [[]] := by
  simp [splitBars]

/-- Two bars at the front end an empty part. -/
theorem splitBars_bars (rest : List Char) :
    splitBars ('|' :: '|' :: rest) = [] :: splitBars rest := by
  simp [splitBars]

/-- A character that is no bar belongs to the first part. -/
theorem splitBars_cons_of_ne {c : Char} (rest : List Char) (h : c ≠ '|') :
    splitBars (c :: rest) = consHead c (splitBars rest) := by
  rw [splitBars]
  intro _ hc
  exact absurd hc h

/-- A text always splits into at least one part. -/
theorem splitBars_ne_nil (cs : List Char) : splitBars cs ≠ [] := by
  fun_induction splitBars cs with
  | case1 => simp
  | case2 => simp
  | case3 c rest _ ih => cases h : splitBars rest <;> simp [consHead]

/-- The text before and after the first occurrence of a character, if there is one. -/
def cutAt? (sep : Char) : List Char → Option (List Char × List Char)
  | [] => none
  | c :: rest =>
    if c = sep then some ([], rest)
    else (cutAt? sep rest).map fun (before, after) => (c :: before, after)

/-- A cut loses only the separator, and nothing before it is one. -/
theorem eq_of_cutAt?_eq_some {sep : Char} {cs before after : List Char}
    (h : cutAt? sep cs = some (before, after)) : cs = before ++ sep :: after ∧ sep ∉ before := by
  induction cs generalizing before with
  | nil => simp [cutAt?] at h
  | cons c rest ih =>
    rw [cutAt?] at h
    split at h
    · next hc =>
      simp only [Option.some.injEq, Prod.mk.injEq] at h
      obtain ⟨rfl, rfl⟩ := h
      simp [hc]
    · next hc =>
      obtain ⟨⟨b, a⟩, hcut, heq⟩ := Option.map_eq_some_iff.1 h
      simp only [Prod.mk.injEq] at heq
      obtain ⟨rfl, rfl⟩ := heq
      obtain ⟨rfl, hb⟩ := ih hcut
      exact ⟨rfl, by simp [Ne.symm hc, hb]⟩

/-- There is nothing to cut exactly when the separator does not occur. -/
theorem cutAt?_eq_none_iff {sep : Char} {cs : List Char} : cutAt? sep cs = none ↔ sep ∉ cs := by
  induction cs with
  | nil => simp [cutAt?]
  | cons c rest ih =>
    by_cases hc : c = sep
    · simp [cutAt?, hc]
    · simp [cutAt?, hc, Ne.symm hc, ih]

end Phrasebook.Text
