import Mathlib.Data.List.TakeWhile
import Phrasebook.Text.Split

/-!
# Splitting joined text

Laws of the splitters on text that was put together from parts. `List.splitOn` undoes joining with
its separator part by part, also where the parts hold the separator themselves
(`splitOn_intercalate_eq_flatMap`). `splitBars` undoes joining with `||` where the text before the
seam does not end with a bar (`splitBars_append_bars`), and leaves a text without `||` whole. What
cannot occur across a separator is found in the parts alone (`infix_intercalate`). A run of
characters of one kind at the front of a text ends at the first character of another kind
(`takeWhile_append_stop`).
-/

namespace Phrasebook.Text

/-! ### Joining -/

/-- Joined parts are the first part and, for each further one, the separator before it. -/
theorem intercalate_cons (sep : Char) (part : List Char) (parts : List (List Char)) :
    [sep].intercalate (part :: parts) = part ++ parts.flatMap (sep :: ·) := by
  induction parts generalizing part with
  | nil => simp
  | cons next rest ih =>
    rw [List.intercalate_cons_cons, ih next]
    simp

/-- A character of joined parts is the separator or belongs to one of them. -/
theorem mem_intercalate {sep x : Char} {parts : List (List Char)}
    (h : x ∈ [sep].intercalate parts) : x = sep ∨ ∃ part ∈ parts, x ∈ part := by
  cases parts with
  | nil => cases h
  | cons part parts =>
    rw [intercalate_cons, List.mem_append, List.mem_flatMap] at h
    rcases h with h | ⟨next, hnext, h⟩
    · exact Or.inr ⟨part, List.mem_cons_self, h⟩
    · rcases List.mem_cons.mp h with h | h
      · exact Or.inl h
      · exact Or.inr ⟨next, List.mem_cons_of_mem _ hnext, h⟩

/-- A text without the separator lies wholly on one side of it. -/
theorem infix_append_cons {sep : Char} {pattern xs ys : List Char} (hsep : sep ∉ pattern)
    (h : pattern <:+: xs ++ sep :: ys) : pattern <:+: xs ∨ pattern <:+: ys := by
  rcases List.infix_append_iff.mp h with h | h | ⟨first, second, rfl, hfirst, hsecond⟩
  · exact Or.inl h
  · rcases List.infix_cons_iff.mp h with h | h
    · cases pattern with
      | nil => exact Or.inl (List.nil_infix)
      | cons c rest =>
        rw [List.cons_prefix_cons] at h
        exact absurd (by simp [h.1]) hsep
    · exact Or.inr h
  · cases second with
    | nil =>
      rw [List.append_nil]
      exact Or.inl hfirst.isInfix
    | cons c rest =>
      rw [List.cons_prefix_cons] at hsecond
      exact absurd (by simp [hsecond.1]) hsep

/-- A text without the separator lies wholly in one of the joined parts. -/
theorem infix_intercalate {sep : Char} {pattern : List Char} {parts : List (List Char)}
    (hne : pattern ≠ []) (hsep : sep ∉ pattern) (h : pattern <:+: [sep].intercalate parts) :
    ∃ part ∈ parts, pattern <:+: part := by
  induction parts with
  | nil => exact absurd (List.infix_nil.mp h) hne
  | cons part rest ih =>
    cases rest with
    | nil =>
      rw [List.intercalate_singleton] at h
      exact ⟨part, List.mem_cons_self, h⟩
    | cons next rest =>
      rw [List.intercalate_cons_cons, List.append_assoc] at h
      rcases infix_append_cons hsep h with h | h
      · exact ⟨part, List.mem_cons_self, h⟩
      · obtain ⟨found, hfound, hin⟩ := ih h
        exact ⟨found, List.mem_cons_of_mem _ hfound, hin⟩

/-! ### Splitting at a character -/

/-- Text without the separator only lengthens the first part. -/
theorem splitOn_append_of_not_mem {sep : Char} {xs ys part : List Char}
    {parts : List (List Char)} (h : sep ∉ xs) (hys : ys.splitOn sep = part :: parts) :
    (xs ++ ys).splitOn sep = (xs ++ part) :: parts := by
  induction xs with
  | nil => exact hys
  | cons c xs ih =>
    obtain ⟨hc, hxs⟩ := List.ne_and_not_mem_of_not_mem_cons h
    rw [List.cons_append, List.splitOn_cons_eq_if_modifyHead, ih hxs]
    simp [Ne.symm hc]

/-- A text splits into one part more than it holds separators. -/
theorem length_splitOn (sep : Char) (cs : List Char) :
    (cs.splitOn sep).length = cs.count sep + 1 := by
  induction cs with
  | nil => rfl
  | cons c cs ih =>
    rw [List.splitOn_cons_eq_if_modifyHead, List.count_cons]
    split
    · rw [List.length_cons, ih]
    · rw [List.length_modifyHead, ih, Nat.add_zero]

/-- Joined parts split as each of them splits. -/
theorem splitOn_intercalate_eq_flatMap (sep : Char) {parts : List (List Char)} (h : parts ≠ []) :
    ([sep].intercalate parts).splitOn sep = parts.flatMap (List.splitOn sep) := by
  induction parts with
  | nil => exact absurd rfl h
  | cons part rest ih =>
    cases rest with
    | nil => simp
    | cons next rest =>
      rw [List.intercalate_cons_cons, List.append_assoc, List.singleton_append,
        List.splitOn_append_cons_self, ih (List.cons_ne_nil _ _)]
      rfl

/-- The parts of a split text do not hold the separator. -/
theorem not_mem_of_mem_splitOn {sep : Char} {cs part : List Char} (h : part ∈ cs.splitOn sep) :
    sep ∉ part := by
  induction cs generalizing part with
  | nil =>
    obtain rfl := List.mem_singleton.mp h
    exact List.not_mem_nil
  | cons c cs ih =>
    rw [List.splitOn_cons_eq_if_modifyHead] at h
    split at h
    · rcases List.mem_cons.mp h with rfl | h
      · exact List.not_mem_nil
      · exact ih h
    · next hc =>
      cases hsplit : cs.splitOn sep with
      | nil => exact absurd hsplit (List.splitOn_ne_nil _ _)
      | cons first others =>
        rw [hsplit, List.modifyHead_cons] at h
        rcases List.mem_cons.mp h with rfl | h
        · have hfirst : sep ∉ first := ih (by rw [hsplit]; exact List.mem_cons_self)
          simpa [hfirst] using fun heq : sep = c => hc (by simp [heq])
        · exact ih (by rw [hsplit]; exact List.mem_cons_of_mem _ h)

/-- Further parts, each with the separator before it, are further parts of the split text. -/
theorem splitOn_append_flatMap {sep : Char} {parts : List (List Char)}
    (h : ∀ part ∈ parts, sep ∉ part) (cs : List Char) :
    (cs ++ parts.flatMap (sep :: ·)).splitOn sep = cs.splitOn sep ++ parts := by
  induction parts generalizing cs with
  | nil => simp
  | cons part parts ih =>
    have hpart : sep ∉ part := h part List.mem_cons_self
    have hparts := ih (fun p hp => h p (List.mem_cons_of_mem _ hp)) part
    rw [List.splitOn_eq_singleton hpart] at hparts
    rw [List.flatMap_cons, List.cons_append, List.splitOn_append_cons_self, hparts]
    rfl

/-! ### Runs of characters -/

section Runs

variable {α : Type} {p : α → Bool} {stop : α}

/-- A run at the front does not go past a stop. -/
theorem takeWhile_append_stop (h : p stop = false) (xs ys : List α) :
    (xs ++ stop :: ys).takeWhile p = xs.takeWhile p := by
  induction xs with
  | nil => simp [h]
  | cons x xs ih => cases hx : p x <;> simp [hx, ih]

/-- What follows a run at the front, where a stop comes after it. -/
theorem dropWhile_append_stop (h : p stop = false) (xs ys : List α) :
    (xs ++ stop :: ys).dropWhile p = xs.dropWhile p ++ stop :: ys := by
  induction xs with
  | nil => simp [h]
  | cons x xs ih => cases hx : p x <;> simp [hx, ih]

/-- A text without the separator is all before it. -/
theorem takeWhile_ne_of_not_mem {sep : Char} {cs : List Char} (h : sep ∉ cs) :
    cs.takeWhile (· ≠ sep) = cs := by
  refine List.takeWhile_eq_self_iff.mpr fun c hc => ?_
  simpa using fun heq : c = sep => h (heq ▸ hc)

/-- Nothing is left behind a character that does not occur. -/
theorem dropWhile_ne_of_not_mem {sep : Char} {cs : List Char} (h : sep ∉ cs) :
    cs.dropWhile (· ≠ sep) = [] := by
  refine List.dropWhile_eq_nil_iff.mpr fun c hc => ?_
  simpa using fun heq : c = sep => h (heq ▸ hc)

/-- What stands before the first separator. -/
theorem takeWhile_ne_append_cons {sep : Char} {before : List Char} (h : sep ∉ before)
    (after : List Char) : (before ++ sep :: after).takeWhile (· ≠ sep) = before := by
  rw [takeWhile_append_stop (by simp), takeWhile_ne_of_not_mem h]

/-- What stands from the first separator on. -/
theorem dropWhile_ne_append_cons {sep : Char} {before : List Char} (h : sep ∉ before)
    (after : List Char) : (before ++ sep :: after).dropWhile (· ≠ sep) = sep :: after := by
  rw [dropWhile_append_stop (by simp), dropWhile_ne_of_not_mem h, List.nil_append]

end Runs

/-! ### Cutting at a character -/

/-- A text is cut at the first of its separators. -/
theorem cutAt?_append_cons {sep : Char} {before : List Char} (h : sep ∉ before)
    (after : List Char) : cutAt? sep (before ++ sep :: after) = some (before, after) := by
  induction before with
  | nil => simp [cutAt?]
  | cons c before ih =>
    obtain ⟨hc, hbefore⟩ := List.ne_and_not_mem_of_not_mem_cons h
    rw [List.cons_append, cutAt?, if_neg (Ne.symm hc), ih hbefore]
    rfl

/-! ### Splitting at bars -/

/-- A bar that no second one follows begins no separator. -/
theorem splitBars_cons_of_not_bars {c : Char} {rest : List Char}
    (h : c = '|' → rest.head? ≠ some '|') :
    splitBars (c :: rest) = consHead c (splitBars rest) := by
  by_cases hc : c = '|'
  · subst hc
    rw [splitBars]
    intro tail _ heq
    exact h rfl (by rw [heq]; rfl)
  · exact splitBars_cons_of_ne rest hc

/-- A character in front of the first of some parts is in front of the first of more of them. -/
theorem consHead_append {c : Char} {parts : List (List Char)} (h : parts ≠ [])
    (others : List (List Char)) : consHead c (parts ++ others) = consHead c parts ++ others := by
  cases parts with
  | nil => exact absurd rfl h
  | cons part parts => rfl

/-- Two bars after a text that ends with none are a separator. -/
theorem splitBars_append_bars {a : List Char} (h : a.getLast? ≠ some '|') (b : List Char) :
    splitBars (a ++ '|' :: '|' :: b) = splitBars a ++ splitBars b := by
  fun_induction splitBars a with
  | case1 => exact splitBars_bars b
  | case2 rest ih =>
    have hrest : rest.getLast? ≠ some '|' := by
      cases rest with
      | nil => simp
      | cons c rest => simpa [List.getLast?_cons_cons] using h
    rw [List.cons_append, List.cons_append, splitBars_bars, ih hrest]
    rfl
  | case3 c rest hnot ih =>
    cases rest with
    | nil =>
      have hc : c ≠ '|' := by simpa using h
      rw [List.cons_append, splitBars_cons_of_ne _ hc, ih (by simp),
        consHead_append (splitBars_ne_nil _)]
    | cons d rest =>
      have hrest : (d :: rest).getLast? ≠ some '|' := by
        simpa [List.getLast?_cons_cons] using h
      have hbars : c = '|' → (d :: rest ++ '|' :: '|' :: b).head? ≠ some '|' := by
        rintro rfl hd
        obtain rfl : d = '|' := by simpa using hd
        exact hnot rest rfl rfl
      rw [List.cons_append, splitBars_cons_of_not_bars hbars, ih hrest,
        consHead_append (splitBars_ne_nil _)]

/-- A text without a separator is one part. -/
theorem splitBars_eq_singleton {cs : List Char} (h : ¬ ['|', '|'] <:+: cs) :
    splitBars cs = [cs] := by
  induction cs with
  | nil => exact splitBars_nil
  | cons c rest ih =>
    have hrest : ¬ ['|', '|'] <:+: rest := fun hin => h (List.infix_cons hin)
    have hbars : c = '|' → rest.head? ≠ some '|' := by
      rintro rfl hhead
      obtain ⟨tail, rfl⟩ := List.head?_eq_some_iff.mp hhead
      exact h ⟨[], tail, rfl⟩
    rw [splitBars_cons_of_not_bars hbars, ih hrest]
    rfl

end Phrasebook.Text
