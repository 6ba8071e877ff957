import Phrasebook.Proofs.Context.History
import Phrasebook.Proofs.Token.Scan

/-!
# Output text is replaced piece by piece

The mentions in an output text are replaced from the front, and what is put in is not read again:
a character that begins no mention is copied, and a mention becomes the text of its parameter
(`Setting.fill`). So a text that is put together from two is replaced as each of them is, unless the
seam lies inside a mention (`Token.SplitsMention`), whose name would then be longer in the whole
than in the first part (`Setting.fill_append`). This covers the warnings, so that a context that
goes through the two parts one after another ends up as it does after the whole.
-/

namespace Phrasebook

namespace Token

/-! ### Seams -/

/-- A text that ends in a dollar sign and any number of word characters, to which more of them would
belong. -/
def EndsOpen (cs : List Char) : Prop :=
  ∃ before name, cs = before ++ '$' :: name ∧ ∀ c ∈ name, isWordChar c = true

/-- The seam between two texts lies inside a mention. -/
def SplitsMention (a b : List Char) : Prop :=
  EndsOpen a ∧ StartsWord b

/-- A seam that lies inside a mention still does with more text in front. -/
theorem SplitsMention.append_left {a b : List Char} (h : SplitsMention a b) (xs : List Char) :
    SplitsMention (xs ++ a) b := by
  obtain ⟨⟨before, name, rfl, hname⟩, hb⟩ := h
  exact ⟨⟨xs ++ before, name, (List.append_assoc ..).symm, hname⟩, hb⟩

/-- Two texts begin with no word character if the first one does not, or is empty and the second one
does not. -/
theorem not_startsWord_append {a b : List Char} (ha : ¬ StartsWord a)
    (hb : a = [] → ¬ StartsWord b) : ¬ StartsWord (a ++ b) := by
  cases a with
  | nil => exact hb rfl
  | cons c a =>
    rw [List.cons_append, startsWord_cons_iff]
    rwa [startsWord_cons_iff] at ha

/-- Past a name that ends before the seam, the text goes on without a word character. -/
theorem not_startsWord_append_of_seam {name : List Char} (rest b : List Char)
    (hname : ∀ c ∈ name, isWordChar c = true) (hrest : ¬ StartsWord rest)
    (hseam : ¬ SplitsMention ('$' :: name ++ rest) b) : ¬ StartsWord (rest ++ b) := by
  refine not_startsWord_append hrest fun hnil hb => hseam ⟨⟨[], name, ?_, hname⟩, hb⟩
  rw [hnil, List.append_nil]
  rfl

end Token

namespace Setting

variable (s : Setting)

open Token (scan isWordChar IsName StartsWord SplitsMention)

/-! ### From the front -/

/-- A text with its mentions of parameters replaced. -/
def fill (cs : List Char) : Run String :=
  s.showTokens (scan cs)

/-- A literal puts its text in front of what the other tokens show. -/
theorem showTokens_literal_cons (text : String) (rest : List Token) :
    s.showTokens (.literal text :: rest) = (text ++ ·) <$> s.showTokens rest := by
  simp [showTokens, showToken]

/-- A mention puts what is shown of its parameter in front of what the other tokens show. -/
theorem showTokens_parameter_cons (name : String) (rest : List Token) :
    s.showTokens (.parameter name :: rest) =
      s.showParameter name >>= fun shown => (shown ++ ·) <$> s.showTokens rest := by
  simp [showTokens, showToken]

/-- The empty text has no mention to replace. -/
theorem fill_nil : s.fill [] = pure "" := by
  rw [fill, scan]
  rfl

/-- The text up to the next dollar sign is copied. -/
theorem fill_eq_of_run (cs : List Char) :
    s.fill cs =
      (String.ofList (cs.takeWhile (· ≠ '$')) ++ ·) <$> s.fill (cs.dropWhile (· ≠ '$')) := by
  cases cs with
  | nil => simp [fill_nil]
  | cons c cs =>
    by_cases hc : c = '$'
    · simp [hc]
    · rw [fill, scan, if_neg hc, showTokens_literal_cons]
      simp [hc, fill]

/-- A character other than a dollar sign is copied. -/
theorem fill_cons_of_ne {c : Char} (hc : c ≠ '$') (cs : List Char) :
    s.fill (c :: cs) = (String.singleton c ++ ·) <$> s.fill cs := by
  have hrun : String.ofList (c :: cs.takeWhile (· ≠ '$')) =
      String.singleton c ++ String.ofList (cs.takeWhile (· ≠ '$')) := by
    rw [String.singleton_eq_ofList, ← String.ofList_append]
    rfl
  rw [s.fill_eq_of_run cs, fill, scan, if_neg hc, showTokens_literal_cons, Functor.map_map, hrun]
  simp only [String.append_assoc]
  rfl

/-- A dollar sign that no name follows is copied. -/
theorem fill_dollar {cs : List Char} (h : ¬ StartsWord cs) :
    s.fill ('$' :: cs) = ("$" ++ ·) <$> s.fill cs := by
  have hempty : (cs.takeWhile isWordChar).isEmpty = true := by
    rw [Token.takeWhile_eq_nil_iff.mpr h]
    rfl
  rw [fill, scan, if_pos rfl, if_pos hempty, showTokens_literal_cons]
  rfl

/-- A mention becomes the text of its parameter. -/
theorem fill_mention {name rest : List Char} (hname : IsName name) (h : ¬ StartsWord rest) :
    s.fill ('$' :: name ++ rest) =
      s.showParameter (String.ofList name) >>= fun shown => (shown ++ ·) <$> s.fill rest := by
  have htake : (name ++ rest).takeWhile isWordChar = name := by
    rw [List.takeWhile_append_of_pos hname.2, Token.takeWhile_eq_nil_iff.mpr h, List.append_nil]
  have hdrop : (name ++ rest).dropWhile isWordChar = rest := by
    have hwhole := List.takeWhile_append_dropWhile (p := isWordChar) (l := name ++ rest)
    rw [htake] at hwhole
    exact List.append_cancel_left hwhole
  have hne : ¬ name.isEmpty = true := by simpa using hname.1
  rw [fill, List.cons_append, scan, if_pos rfl, htake, if_neg hne, hdrop,
    showTokens_parameter_cons]
  rfl

/-! ### Two parts -/

/-- A text in two parts is replaced as each part is, if the seam does not lie inside a mention. The
induction takes from the first part a character that is copied, or a whole mention. -/
theorem fill_append : ∀ (a b : List Char), ¬ SplitsMention a b →
    s.fill (a ++ b) = s.fill a >>= fun x => (x ++ ·) <$> s.fill b
  | [], b, _ => by simp [fill_nil]
  | c :: cs, b, hseam => by
    by_cases hc : c = '$'
    · subst hc
      by_cases hword : StartsWord cs
      · -- a mention: the first part goes on after its name
        have hcs := List.takeWhile_append_dropWhile (p := isWordChar) (l := cs)
        have hname : IsName (cs.takeWhile isWordChar) := Token.isName_takeWhile (by
          simpa using mt Token.takeWhile_eq_nil_iff.mp (not_not.mpr hword))
        have hrest := Token.not_startsWord_dropWhile cs
        have hwhole : '$' :: cs.takeWhile isWordChar ++ cs.dropWhile isWordChar = '$' :: cs := by
          rw [List.cons_append, hcs]
        have hnext := Token.not_startsWord_append_of_seam _ b hname.2 hrest (by rwa [hwhole])
        have hih := fill_append (cs.dropWhile isWordChar) b fun hsplits =>
          hseam (hwhole ▸ hsplits.append_left _)
        rw [← hwhole, List.append_assoc, s.fill_mention hname hnext, s.fill_mention hname hrest,
          hih]
        simp [String.append_assoc]
      · have hnone : ∀ d ∈ ([] : List Char), isWordChar d = true := fun _ h =>
          absurd h List.not_mem_nil
        have hnext := Token.not_startsWord_append_of_seam cs b hnone hword hseam
        have hih := fill_append cs b fun hsplits => hseam (hsplits.append_left ['$'])
        rw [List.cons_append, s.fill_dollar hnext, s.fill_dollar hword, hih]
        simp [String.append_assoc]
    · have hih := fill_append cs b fun hsplits => hseam (hsplits.append_left [c])
      rw [List.cons_append, s.fill_cons_of_ne hc, s.fill_cons_of_ne hc, hih]
      simp [String.append_assoc]
termination_by a => a.length
decreasing_by
  · exact Nat.lt_succ_of_le (List.dropWhile_suffix _).length_le
  · exact Nat.lt_succ_self _
  · exact Nat.lt_succ_self _

end Setting

namespace Context

/-- A context that goes through two parts of a text one after another ends up as it does after the
whole text. -/
theorem perform_substitute_append {a b : String} (h : ¬ Token.SplitsMention a.toList b.toList)
    (c : Context) (registry : Registry) :
    c.perform registry (·.substitute (a ++ b)) =
      let (first, between) := c.perform registry (·.substitute a)
      let (second, after) := between.perform registry (·.substitute b)
      (first ++ second, after) := by
  have hwhole (s : Setting) : s.substitute (a ++ b) =
      s.substitute a >>= fun x => (x ++ ·) <$> s.substitute b := by
    have hfill (text : String) : s.substitute text = s.fill text.toList := rfl
    rw [hfill, hfill, hfill, String.toList_append, s.fill_append _ _ h]
  simp only [perform, hwhole, Run.result_bind, Run.result_map, Run.warnings_bind, Run.warnings_map,
    keepAll_append]

end Context

/-- The mentions of a text are read as they are written. The tokens, one after another, are the text;
a mention has a name of one or more word characters that no further one follows; and each dollar
sign before a word character begins a mention. The reader of lone mentions accepts exactly the texts
that scan as a single mention. Replacing the mentions of a text in two parts, in whatever context,
gives what the parts give, if the seam does not lie inside a mention. -/
theorem mentions_read_as_written :
    (∀ text : String,
      Token.written (Token.ofString text) = text.toList ∧
      (∀ before name after, Token.ofString text = before ++ .parameter name :: after →
        Token.IsName name.toList ∧ ¬ Token.StartsWord (Token.written after)) ∧
      (∀ before c after, text.toList = before ++ '$' :: c :: after → Token.isWordChar c = true →
        ∃ first name others, Token.ofString text = first ++ .parameter name :: others ∧
          Token.written first = before) ∧
      (∀ name, Token.lone? text.toList = some name ↔ Token.ofString text = [.parameter name])) ∧
    (∀ a b : String, ¬ Token.SplitsMention a.toList b.toList →
      ∀ (c : Context) (registry : Registry),
        c.perform registry (·.substitute (a ++ b)) =
          let (first, between) := c.perform registry (·.substitute a)
          let (second, after) := between.perform registry (·.substitute b)
          (first ++ second, after)) := by
  refine ⟨fun text => ⟨Token.written_scan _, fun before name after => Token.isName_of_scan_eq, ?_,
    fun name => Token.lone?_eq_some_iff_scan⟩, fun a b hseam c registry =>
      Context.perform_substitute_append hseam c registry⟩
  intro before c after htext hc
  rw [Token.ofString, htext]
  exact Token.exists_parameter_of_dollar hc

/-- A dollar sign before a mention, a letter that is not ASCII right after one, and a seam before a
mention, where the first part ends with a dollar sign. -/
theorem mentions_read_as_written_dollars :
    (Token.ofString "$$n_1é$" = [.literal "$"] ++ .parameter "n_1" :: [.literal "é", .literal "$"] ∧
      Token.IsName "n_1".toList ∧ ¬ Token.StartsWord (Token.written [.literal "é", .literal "$"])) ∧
    ("$$n_1é$".toList = ['$'] ++ '$' :: 'n' :: "_1é$".toList ∧ Token.isWordChar 'n' = true ∧
      ∃ first name others, Token.ofString "$$n_1é$" = first ++ .parameter name :: others ∧
        Token.written first = ['$']) ∧
    ¬ Token.SplitsMention "$a$".toList "$b".toList ∧
    (let c := Context.fresh (Keyed.ofList [("a", .number 1)])
     (c.perform .builtin (·.substitute ("$a$" ++ "$b"))).1 = "1$-" ∧
       (c.perform .builtin (·.substitute ("$a$" ++ "$b"))).2.warnings =
         [.unresolvedParameter "b"]) := by
  have hscan : Token.ofString "$$n_1é$" =
      [.literal "$"] ++ .parameter "n_1" :: [.literal "é", .literal "$"] := by decide +kernel
  have htext : "$$n_1é$".toList = ['$'] ++ '$' :: 'n' :: "_1é$".toList := by decide +kernel
  have hword : Token.isWordChar 'n' = true := by decide
  have hseam : ¬ Token.SplitsMention "$a$".toList "$b".toList := by
    rintro ⟨-, hb⟩
    exact absurd (Token.startsWord_cons_iff.mp hb) (by decide)
  obtain ⟨-, hnames, hdollars, -⟩ := mentions_read_as_written.1 "$$n_1é$"
  refine ⟨⟨hscan, hnames _ _ _ hscan⟩, ⟨htext, hword, hdollars _ _ _ htext hword⟩, hseam, ?_⟩
  intro c
  rw [mentions_read_as_written.2 _ _ hseam c .builtin]
  exact ⟨by decide +kernel, by decide +kernel⟩

end Phrasebook
