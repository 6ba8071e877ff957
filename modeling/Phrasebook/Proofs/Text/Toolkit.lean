import Phrasebook.Proofs.Text.Leftmost

/-!
# Readers and a toolkit of them

A reader takes something off the front of a text, or declines the text so that another reader may
try, or refuses it for good (`Reply`). What a repetition of an element between separators replies is
described by `Separated`: it ends where a separator or the element behind one is declined, and
refuses to go on behind a separator that takes nothing. A toolkit offers readers of this kind, and
`Toolkit.Documented` says what they are documented to reply, nothing more. The plain toolkit is one
that replies so (`plain_documented`).
-/

namespace Phrasebook.Text

variable {α β : Type}

/-- What a reader makes of a text: a value and what is left of the text, no value so that another
reader may try, or no value at all. -/
inductive Reply (α : Type) where
  | done (value : α) (rest : List Char)
  | declined
  | refused
  deriving DecidableEq, Repr

namespace Reply

/-- The value that was read, or another one. -/
def getD (fallback : α) : Reply α → α
  | done value _ => value
  | _ => fallback

/-- The reply of a repetition that has read an element and a separator, by the reply of the
repetition behind them. If that declines, the repetition ends before the separator. -/
def extend (value : α) (rest : List Char) : Reply (List α) → Reply (List α)
  | done values rest => done (value :: values) rest
  | declined => done [value] rest
  | refused => refused

end Reply

/-- A reader of values. What it leaves of a text is the end of it. -/
structure Reader (α : Type) where
  read : List Char → Reply α
  isSuffix {cs rest : List Char} {value : α} : read cs = .done value rest → rest <:+ cs

/-- The reply of one or more elements with a separator between each two of them. -/
inductive Separated (element : Reader α) (separator : Reader β) :
    List Char → Reply (List α) → Prop
  | declined {cs : List Char} : element.read cs = .declined →
      Separated element separator cs .declined
  | refused {cs : List Char} : element.read cs = .refused →
      Separated element separator cs .refused
  | last {cs after : List Char} {value : α} : element.read cs = .done value after →
      separator.read after = .declined → Separated element separator cs (.done [value] after)
  | refusedSeparator {cs after : List Char} {value : α} : element.read cs = .done value after →
      separator.read after = .refused → Separated element separator cs .refused
  | idleSeparator {cs after : List Char} {value : α} {mark : β} :
      element.read cs = .done value after → separator.read after = .done mark after →
      Separated element separator cs .refused
  | further {cs after behind : List Char} {value : α} {mark : β} {reply : Reply (List α)} :
      element.read cs = .done value after → separator.read after = .done mark behind →
      behind ≠ after → Separated element separator behind reply →
      Separated element separator cs (reply.extend value after)

namespace Separated

variable {element : Reader α} {separator : Reader β} {cs : List Char}

/-- Elements between separators are replied in one way. -/
theorem unique {first second : Reply (List α)} (h₁ : Separated element separator cs first)
    (h₂ : Separated element separator cs second) : first = second := by
  induction h₁ generalizing second with
  | declined h => cases h₂ <;> simp_all
  | refused h => cases h₂ <;> simp_all
  | last h hseparator => cases h₂ <;> simp_all
  | refusedSeparator h hseparator => cases h₂ <;> simp_all
  | idleSeparator h hseparator => cases h₂ <;> simp_all
  | further h hseparator hne hrest ih =>
    cases h₂ with
    | further h' hseparator' hne' hrest' =>
      cases h.symm.trans h'
      cases hseparator.symm.trans hseparator'
      rw [ih hrest']
    | _ => simp_all

/-- What is left behind the elements is the end of the text. -/
theorem isSuffix {reply : Reply (List α)} {values : List α} {rest : List Char}
    (h : Separated element separator cs reply) (hreply : reply = .done values rest) :
    rest <:+ cs := by
  induction h generalizing values rest with
  | last h =>
    cases hreply
    exact element.isSuffix h
  | @further cs after behind value mark reply h hseparator hne hrest ih =>
    have hafter := element.isSuffix h
    cases reply with
    | done others left =>
      cases hreply
      exact (ih rfl).trans ((separator.isSuffix hseparator).trans hafter)
    | declined =>
      cases hreply
      exact hafter
    | refused => cases hreply
  | _ => cases hreply

end Separated

/-- Readers that others are made of. -/
structure Toolkit where
  /-- Everything before a character. -/
  takeTill : Char → Reader (List Char)
  /-- Everything before a text that must occur. -/
  takeUntil : List Char → Reader (List Char)
  /-- A given text. -/
  literal : List Char → Reader (List Char)
  /-- Everything. -/
  rest : Reader (List Char)
  /-- The first of two readers that does not decline. -/
  alt {α : Type} : Reader α → Reader α → Reader α
  /-- One or more elements with a separator between each two of them. -/
  separated {α β : Type} : Reader α → Reader β → Reader (List α)

/-- The readers of a toolkit reply as they are documented to. -/
structure Toolkit.Documented (t : Toolkit) : Prop where
  takeTill (c : Char) (cs : List Char) :
    (t.takeTill c).read cs = .done (cs.takeWhile (· ≠ c)) (cs.dropWhile (· ≠ c))
  takeUntil_of_first {pattern before after : List Char} : FirstIn pattern before after →
    (t.takeUntil pattern).read (before ++ (pattern ++ after)) = .done before (pattern ++ after)
  takeUntil_of_absent {pattern cs : List Char} : ¬ pattern <:+: cs →
    (t.takeUntil pattern).read cs = .declined
  literal_of_prefix (pattern rest : List Char) :
    (t.literal pattern).read (pattern ++ rest) = .done pattern rest
  literal_of_not_prefix {pattern cs : List Char} : ¬ pattern <+: cs →
    (t.literal pattern).read cs = .declined
  rest (cs : List Char) : t.rest.read cs = .done cs []
  alt_of_declined {α : Type} {first second : Reader α} {cs : List Char} :
    first.read cs = .declined → (t.alt first second).read cs = second.read cs
  alt_of_not_declined {α : Type} {first second : Reader α} {cs : List Char} :
    first.read cs ≠ .declined → (t.alt first second).read cs = first.read cs
  separated {α β : Type} {element : Reader α} {separator : Reader β} {cs : List Char}
    {reply : Reply (List α)} : Separated element separator cs reply →
    (t.separated element separator).read cs = reply

/-! ### The plain toolkit -/

namespace Reader

/-- Everything before the first occurrence of a text, and the text from there on. -/
def splitBefore? (pattern : List Char) : List Char → Option (List Char × List Char)
  | [] => if pattern <+: [] then some ([], []) else none
  | c :: rest =>
    if pattern <+: c :: rest then some ([], c :: rest)
    else (splitBefore? pattern rest).map fun (before, after) => (c :: before, after)

/-- The two texts that are split make up the whole. -/
theorem append_of_splitBefore? {pattern cs before after : List Char}
    (h : splitBefore? pattern cs = some (before, after)) : before ++ after = cs := by
  induction cs generalizing before with
  | nil =>
    rw [splitBefore?] at h
    split at h <;> cases h
    rfl
  | cons c rest ih =>
    rw [splitBefore?] at h
    split at h
    · cases h
      rfl
    · obtain ⟨⟨front, back⟩, hrest, heq⟩ := Option.map_eq_some_iff.mp h
      cases heq
      rw [List.cons_append, ih hrest]

/-- A text that begins with the pattern is split in front of it. -/
theorem splitBefore?_of_prefix {pattern cs : List Char} (h : pattern <+: cs) :
    splitBefore? pattern cs = some ([], cs) := by
  cases cs <;> exact if_pos h

/-- A text is split before the first occurrence of the pattern. -/
theorem splitBefore?_of_first {pattern before after : List Char}
    (h : FirstIn pattern before after) :
    splitBefore? pattern (before ++ (pattern ++ after)) = some (before, pattern ++ after) := by
  induction before with
  | nil => exact splitBefore?_of_prefix (List.prefix_append _ _)
  | cons c before ih =>
    obtain ⟨hhere, hlater⟩ := firstIn_cons_iff.mp h
    rw [List.cons_append, splitBefore?, if_neg hhere, ih hlater]
    rfl

/-- A text is not split by a pattern that it does not hold. -/
theorem splitBefore?_of_absent {pattern cs : List Char} (h : ¬ pattern <:+: cs) :
    splitBefore? pattern cs = none := by
  induction cs with
  | nil => exact if_neg fun hbegins => h hbegins.isInfix
  | cons c rest ih =>
    have hrest : ¬ pattern <:+: rest := fun hin => h (List.infix_cons hin)
    rw [splitBefore?, if_neg fun hbegins => h hbegins.isInfix, ih hrest]
    rfl

/-- Reads everything before a character, or the whole text. -/
def takeTill (c : Char) : Reader (List Char) where
  read cs := .done (cs.takeWhile (· ≠ c)) (cs.dropWhile (· ≠ c))
  isSuffix h := by
    cases h
    exact List.dropWhile_suffix _

/-- Reads everything before a text, and declines where that does not occur. -/
def takeUntil (pattern : List Char) : Reader (List Char) where
  read cs :=
    match splitBefore? pattern cs with
    | some (before, after) => .done before after
    | none => .declined
  isSuffix h := by
    split at h <;> cases h
    next hsplit => exact ⟨_, append_of_splitBefore? hsplit⟩

/-- Reads a given text, and declines where another one stands. -/
def literal (pattern : List Char) : Reader (List Char) where
  read cs := if pattern <+: cs then .done pattern (cs.drop pattern.length) else .declined
  isSuffix h := by
    split at h <;> cases h
    exact List.drop_suffix _ _

/-- Reads the whole text. -/
def everything : Reader (List Char) where
  read cs := .done cs []
  isSuffix h := by
    cases h
    exact List.nil_suffix

/-- Reads as the first reader does or, where that declines, as the second. -/
def orElse (first second : Reader α) : Reader α where
  read cs :=
    match first.read cs with
    | .declined => second.read cs
    | reply => reply
  isSuffix h := by
    split at h
    · exact second.isSuffix h
    · exact first.isSuffix h

/-- What follows a separator that takes something is shorter than what its element was read from. -/
theorem length_lt_of_separated {element : Reader α} {separator : Reader β}
    {cs after behind : List Char} {value : α} {mark : β}
    (helement : element.read cs = .done value after)
    (hseparator : separator.read after = .done mark behind) (hne : behind ≠ after) :
    behind.length < cs.length := by
  have hsuffix := separator.isSuffix hseparator
  have hlt : behind.length < after.length :=
    Nat.lt_of_le_of_ne hsuffix.length_le fun hlength => hne (hsuffix.eq_of_length hlength)
  exact Nat.lt_of_lt_of_le hlt (element.isSuffix helement).length_le

/-- The elements between separators, read one after another. -/
def readSeparated (element : Reader α) (separator : Reader β) (cs : List Char) :
    Reply (List α) :=
  match helement : element.read cs with
  | .declined => .declined
  | .refused => .refused
  | .done value after =>
    match hseparator : separator.read after with
    | .declined => .done [value] after
    | .refused => .refused
    | .done _ behind =>
      if hne : behind = after then .refused
      else
        have _ := length_lt_of_separated helement hseparator hne
        (readSeparated element separator behind).extend value after
termination_by cs.length

/-- What is read one after another is the reply of elements between separators. -/
theorem separated_readSeparated (element : Reader α) (separator : Reader β) (cs : List Char) :
    Separated element separator cs (readSeparated element separator cs) := by
  fun_induction readSeparated element separator cs with
  | case1 cs h => exact .declined h
  | case2 cs h => exact .refused h
  | case3 cs value after h hseparator => exact .last h hseparator
  | case4 cs value after h hseparator => exact .refusedSeparator h hseparator
  | case5 cs value after mark h hseparator => exact .idleSeparator h hseparator
  | case6 cs value after h mark behind hseparator hne _ ih =>
    exact .further h hseparator hne ih

/-- Reads one or more elements with a separator between each two of them. -/
def separated (element : Reader α) (separator : Reader β) : Reader (List α) where
  read := readSeparated element separator
  isSuffix h := (separated_readSeparated element separator _).isSuffix h

end Reader

namespace Toolkit

/-- The readers above. -/
def plain : Toolkit where
  takeTill := Reader.takeTill
  takeUntil := Reader.takeUntil
  literal := Reader.literal
  rest := Reader.everything
  alt := Reader.orElse
  separated := Reader.separated

/-- The plain readers reply as they are documented to. -/
theorem plain_documented : plain.Documented where
  takeTill _ _ := rfl
  takeUntil_of_first h := by
    simp only [plain, Reader.takeUntil, Reader.splitBefore?_of_first h]
  takeUntil_of_absent h := by
    simp only [plain, Reader.takeUntil, Reader.splitBefore?_of_absent h]
  literal_of_prefix pattern rest := by
    simp [plain, Reader.literal]
  literal_of_not_prefix h := if_neg h
  rest _ := rfl
  alt_of_declined h := by
    simp only [plain, Reader.orElse, h]
  alt_of_not_declined h := by
    simp only [plain, Reader.orElse]
  separated h := (Reader.separated_readSeparated _ _ _).unique h

end Toolkit

end Phrasebook.Text
