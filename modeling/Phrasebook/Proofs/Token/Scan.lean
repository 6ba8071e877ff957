import Mathlib.Data.List.TakeWhile
import Phrasebook.Proofs.Text.Split
import Phrasebook.Text.Split
import Phrasebook.Token

/-!
# Mentions and where they are found

The reader of lone mentions and the scan of a text are two readers of the same thing: a text is a
lone mention just when it scans as one (`lone?_eq_some_iff_scan`).
-/

/-! ## Mentions

A mention is a dollar sign and a name, and a name is one or more word characters (`IsName`). The
reader of lone mentions accepts exactly these (`lone?_eq_some_iff`). No word character is blank, so
trimming leaves a mention as it is.
-/

namespace Phrasebook.Token

/-- What can be the name of a mentioned parameter. -/
def IsName (name : List Char) : Prop :=
  name ≠ [] ∧ ∀ c ∈ name, isWordChar c = true

/-- Whether a text is a name is decided by its characters. -/
instance : DecidablePred IsName := fun name =>
  decidable_of_iff (name ≠ [] ∧ name.all isWordChar) (by simp [IsName])

/-- A name is taken as a whole. -/
theorem takeWhile_of_isName {name : List Char} (h : IsName name) :
    name.takeWhile isWordChar = name := by
  rw [List.takeWhile_eq_self_iff]
  exact h.2

/-- A dollar sign and a name behind it are a mention, with nothing left. -/
theorem mentionAt?_dollar {name : List Char} (h : IsName name) :
    mentionAt? ('$' :: name) = some (name, []) := by
  have hdrop : name.dropWhile isWordChar = [] := by
    rw [List.dropWhile_eq_nil_iff]
    exact h.2
  have hne : name.isEmpty = false := by
    simpa using h.1
  simp only [mentionAt?, takeWhile_of_isName h, hdrop, hne, Bool.false_eq_true, if_false]

/-- A text is a lone mention of a name exactly when it is a dollar sign and that name. -/
theorem lone?_eq_some_iff {cs : List Char} {name : String} :
    lone? cs = some name ↔ cs = '$' :: name.toList ∧ IsName name.toList := by
  constructor
  · intro h
    unfold lone? at h
    split at h
    · next found hfound =>
      obtain rfl := Option.some.inj h
      unfold mentionAt? at hfound
      split at hfound
      · next rest =>
        split at hfound
        · cases hfound
        · next hne =>
          obtain ⟨rfl, hdrop⟩ := Prod.mk.inj (Option.some.inj hfound)
          have hall : ∀ c ∈ rest, isWordChar c = true := List.dropWhile_eq_nil_iff.mp hdrop
          have hrest : rest.takeWhile isWordChar = rest := List.takeWhile_eq_self_iff.mpr hall
          rw [hrest] at hne ⊢
          rw [String.toList_ofList]
          exact ⟨rfl, by simpa using hne, hall⟩
      · cases hfound
    · cases h
  · rintro ⟨rfl, hname⟩
    simp only [lone?, mentionAt?_dollar hname, String.ofList_toList]

/-! ### Word characters and blanks -/

/-- No character of a name is blank. -/
theorem isBlank_of_isWordChar {c : Char} (h : isWordChar c = true) : Text.isBlank c = false := by
  simp only [isWordChar, Bool.or_eq_true, Bool.and_eq_true, decide_eq_true_eq, beq_iff_eq,
    Char.le_def, UInt32.le_iff_toNat_le] at h
  have hcode : 48 ≤ c.toNat ∧ c.toNat ≤ 122 := by
    rcases h with ((h | h) | h) | rfl
    · exact ⟨Nat.le_trans (by decide) h.1, Nat.le_trans h.2 (by decide)⟩
    · exact ⟨Nat.le_trans (by decide) h.1, Nat.le_trans h.2 (by decide)⟩
    · exact ⟨Nat.le_trans (by decide) h.1, Nat.le_trans h.2 (by decide)⟩
    · decide
  simp only [Text.isBlank, Bool.or_eq_false_iff, Bool.and_eq_false_iff, decide_eq_false_iff_not,
    beq_eq_false_iff_ne]
  omega

/-- Trimming leaves a mention as it is. -/
theorem trim_mention {name : List Char} (h : IsName name) :
    Text.trim ('$' :: name) = '$' :: name := by
  apply Text.trim_of_forall_not_blank
  intro c hc
  rcases List.mem_cons.mp hc with rfl | hc
  · decide
  · exact isBlank_of_isWordChar (h.2 c hc)

/-! ## Scanning

Scanning loses nothing of a text (`written_scan`). It takes for a mention each dollar sign that a
word character follows, wherever it stands (`exists_parameter_of_dollar`), and the name is then all
the word characters that follow (`isName_of_scan_eq`). The reader of lone mentions accepts exactly
the texts that scan as a single mention (`lone?_eq_some_iff_scan`).
-/

/-- The text that tokens stand for, one after another. -/
def written (tokens : List Token) : List Char :=
  tokens.flatMap fun token => token.render.toList

@[simp] theorem written_nil : written [] = [] := rfl

@[simp] theorem written_cons (token : Token) (rest : List Token) :
    written (token :: rest) = token.render.toList ++ written rest := rfl

@[simp] theorem toList_render_literal (cs : List Char) :
    (literal (String.ofList cs)).render.toList = cs := String.toList_ofList

/-- The characters of a mention are the dollar sign and its name. -/
@[simp] theorem toList_render_parameter (name : List Char) :
    (parameter (String.ofList name)).render.toList = '$' :: name := by
  simp [render]

/-- A text that begins with a word character. -/
def StartsWord (cs : List Char) : Prop :=
  ∃ c rest, cs = c :: rest ∧ isWordChar c = true

/-- The dollar sign is not a character of a name. -/
theorem isWordChar_dollar : isWordChar '$' = false := by decide

/-- A text starts a word exactly if its first character belongs to a name. -/
theorem startsWord_cons_iff {c : Char} {cs : List Char} :
    StartsWord (c :: cs) ↔ isWordChar c = true := by
  constructor
  · rintro ⟨d, rest, heq, hd⟩
    obtain ⟨rfl, -⟩ := List.cons.inj heq
    exact hd
  · intro hc
    exact ⟨c, cs, rfl, hc⟩

/-- The empty text starts no word. -/
theorem not_startsWord_nil : ¬ StartsWord [] := by
  rintro ⟨c, rest, heq, -⟩
  cases heq

/-- No name can be read from a text just when it does not begin with a word character. -/
theorem takeWhile_eq_nil_iff {cs : List Char} :
    cs.takeWhile isWordChar = [] ↔ ¬ StartsWord cs := by
  cases cs with
  | nil => simp [not_startsWord_nil]
  | cons c cs => simp [startsWord_cons_iff, List.takeWhile_cons]

/-- A name goes on for as long as there are word characters. -/
theorem not_startsWord_dropWhile (cs : List Char) : ¬ StartsWord (cs.dropWhile isWordChar) := by
  rintro ⟨c, rest, heq, hc⟩
  have hstop := List.head?_dropWhile_not isWordChar cs
  rw [heq, List.head?_cons] at hstop
  simp [hc] at hstop

/-- The characters of a name at the front of a text are a name, if there are any. -/
theorem isName_takeWhile {cs : List Char} (h : (cs.takeWhile isWordChar).isEmpty = false) :
    IsName (cs.takeWhile isWordChar) :=
  ⟨by simpa using h, fun _ hc => List.mem_takeWhile_imp hc⟩

/-! ### The text is kept -/

/-- Tokens in the order in which they were scanned make up the text. -/
theorem written_scan (cs : List Char) : written (scan cs) = cs := by
  fun_induction scan cs with
  | case1 => rfl
  | case2 rest _ ih =>
    rw [written_cons, ih]
    rfl
  | case3 rest _ ih =>
    rw [written_cons, ih, toList_render_parameter, List.cons_append,
      List.takeWhile_append_dropWhile]
  | case4 c rest _ ih =>
    rw [written_cons, ih, toList_render_literal, List.cons_append,
      List.takeWhile_append_dropWhile]

/-! ### The mentions are found -/

/-- A mention that scanning finds has a name, and no word character follows it. -/
theorem isName_of_scan_eq {cs : List Char} {before after : List Token} {name : String}
    (h : scan cs = before ++ .parameter name :: after) :
    IsName name.toList ∧ ¬ StartsWord (written after) := by
  fun_induction scan cs generalizing before with
  | case1 => simp at h
  | case2 rest _ ih =>
    rcases List.cons_eq_append_iff.mp h with ⟨-, heq⟩ | ⟨earlier, -, heq⟩
    · cases heq
    · exact ih heq
  | case3 rest hne ih =>
    rcases List.cons_eq_append_iff.mp h with ⟨-, heq⟩ | ⟨earlier, -, heq⟩
    · obtain ⟨hname, rfl⟩ := List.cons.inj heq
      obtain rfl := Token.parameter.inj hname
      rw [String.toList_ofList, written_scan]
      exact ⟨isName_takeWhile (by simpa using hne), not_startsWord_dropWhile rest⟩
    · exact ih heq
  | case4 c rest _ ih =>
    rcases List.cons_eq_append_iff.mp h with ⟨-, heq⟩ | ⟨earlier, -, heq⟩
    · cases heq
    · exact ih heq

/-- Each dollar sign that a word character follows begins a mention. -/
theorem exists_parameter_of_dollar {before after : List Char} {c : Char}
    (hc : isWordChar c = true) :
    ∃ first name others, scan (before ++ '$' :: c :: after) = first ++ .parameter name :: others ∧
      written first = before := by
  generalize htext : before ++ '$' :: c :: after = cs
  fun_induction scan cs generalizing before with
  | case1 => simp at htext
  | case2 rest hempty ih =>
    cases before with
    | nil =>
      obtain ⟨-, rfl⟩ := List.cons.inj htext
      simp [hc] at hempty
    | cons d before =>
      rw [List.cons_append, List.cons.injEq] at htext
      obtain ⟨rfl, hrest⟩ := htext
      obtain ⟨first, name, others, hscan, hwritten⟩ := ih hrest
      exact ⟨.literal "$" :: first, name, others, by rw [hscan]; rfl,
        by rw [← hwritten]; rfl⟩
  | case3 rest _ ih =>
    cases before with
    | nil => exact ⟨[], _, _, rfl, rfl⟩
    | cons d before =>
      rw [List.cons_append, List.cons.injEq] at htext
      obtain ⟨rfl, rfl⟩ := htext
      -- the name ends before the next dollar sign
      have hdrop := Text.dropWhile_append_stop isWordChar_dollar before (c :: after)
      obtain ⟨first, name, others, hscan, hwritten⟩ := ih hdrop.symm
      refine ⟨.parameter (String.ofList (before.takeWhile isWordChar)) :: first, name, others, ?_,
        ?_⟩
      · rw [hscan, Text.takeWhile_append_stop isWordChar_dollar]
        rfl
      · rw [written_cons, hwritten, toList_render_parameter, List.cons_append,
          List.takeWhile_append_dropWhile]
  | case4 d rest hd ih =>
    cases before with
    | nil =>
      obtain ⟨rfl, -⟩ := List.cons.inj htext
      exact absurd rfl hd
    | cons e before =>
      rw [List.cons_append, List.cons.injEq] at htext
      obtain ⟨rfl, rfl⟩ := htext
      have hstop : decide ('$' ≠ '$') = false := by decide
      have hdrop := Text.dropWhile_append_stop (p := (· ≠ '$')) hstop before (c :: after)
      obtain ⟨first, name, others, hscan, hwritten⟩ := ih hdrop.symm
      refine ⟨.literal (String.ofList (e :: before.takeWhile (· ≠ '$'))) :: first, name, others, ?_,
        ?_⟩
      · rw [hscan, Text.takeWhile_append_stop (p := (· ≠ '$')) hstop]
        rfl
      · rw [written_cons, hwritten, toList_render_literal, List.cons_append,
          List.takeWhile_append_dropWhile]

/-- The two readers of mentions agree: a text is a lone mention just when it scans as one. -/
theorem lone?_eq_some_iff_scan {cs : List Char} {name : String} :
    lone? cs = some name ↔ scan cs = [.parameter name] := by
  rw [lone?_eq_some_iff]
  constructor
  · rintro ⟨rfl, hname⟩
    have hdrop : name.toList.dropWhile isWordChar = [] := List.dropWhile_eq_nil_iff.mpr hname.2
    have hne : name.toList.isEmpty = false := by simpa using hname.1
    rw [scan, if_pos rfl, takeWhile_of_isName hname, hne, hdrop, String.ofList_toList, scan]
    rfl
  · intro hscan
    have htext := written_scan cs
    rw [hscan] at htext
    have hlone : scan cs = [] ++ .parameter name :: [] := hscan
    refine ⟨?_, (isName_of_scan_eq hlone).1⟩
    rw [← htext]
    simp [render]

end Phrasebook.Token
