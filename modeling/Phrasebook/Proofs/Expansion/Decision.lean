import Mathlib.Data.Set.Basic
import Mathlib.Order.Bounds.Defs
import Phrasebook.Proofs.Context.History
import Phrasebook.Proofs.Expansion.Names

/-!
# The clause that decides

A clause decides a choice if it lacks a field, or if its modifier is registered and accepts
(`Setting.Decides`). The least clause that decides is all that counts: a choice passes over the
clauses before it, with no more than a warning for each modifier that is not registered
(`warnings_chooseFrom_append`), and does not look at the clauses after it
(`chooseFrom_append_cons`). What it puts out in the end, and what it gives notice of, is
`choose_by_least_decisive`.

The text of the winning output is told here without a run: `filled` is the output with the text of a
parameter in the place of each mention, `unset` are the mentions of parameters that are not set.
-/

namespace Phrasebook

/-! ### Output text -/

namespace Token

/-- The text that stands for a token. -/
def shown (params : Params) : Token → String
  | .literal text => text
  | .parameter name => ((params.get? name).map Value.display).getD sentinel

/-- A text with its mentions of parameters replaced. -/
def filled (params : Params) (text : String) : String :=
  String.join ((ofString text).map (shown params))

/-- The parameters that a text mentions and that are not set, in the order of the mentions. -/
def unset (params : Params) (text : String) : List String :=
  (names (ofString text)).filter fun name => (params.get? name).isNone

end Token

namespace Setting

variable (s : Setting)

/-- A token is shown as the text that stands for it. -/
theorem result_showToken (token : Token) :
    (s.showToken token).result = token.shown s.params := by
  cases token with
  | literal text => rfl
  | parameter name =>
    unfold showToken showParameter Token.shown
    simp only
    cases s.params.get? name <;> rfl

/-- A text with its mentions replaced is the one that is put together from its tokens. -/
theorem result_substitute (text : String) :
    (s.substitute text).result = Token.filled s.params text := by
  unfold substitute Token.filled
  induction Token.ofString text with
  | nil => rfl
  | cons token rest ih =>
    have hcons : (s.showTokens (token :: rest)).result =
        (s.showToken token).result ++ (s.showTokens rest).result := rfl
    rw [hcons, result_showToken, ih, List.map_cons, String.join_cons]

/-- Replacing mentions warns of each one that is not set, in their order. -/
theorem warnings_substitute (text : String) :
    (s.substitute text).warnings =
      (Token.unset s.params text).map Warning.unresolvedParameter := by
  unfold substitute Token.unset
  induction Token.ofString text with
  | nil => rfl
  | cons token rest ih =>
    rw [showTokens_cons, ih]
    cases token with
    | literal text => rfl
    | parameter name =>
      have hnames : Token.names (.parameter name :: rest) = name :: Token.names rest := rfl
      rw [showToken, warnings_showParameter, hnames, List.filter_cons]
      cases s.params.get? name <;> rfl

/-! ### Clauses that decide -/

/-- An entry decides a choice: it is no complete clause, or its modifier is registered and
accepts. -/
def Decides (reference : Option Value) : Except ClauseFault Clause → Prop
  | .error _ => True
  | .ok clause => ∃ m output, s.registry.get? clause.modifier = some m ∧
      m.output (s.callOf reference clause) = some output

variable {s} in
/-- The modifier of a clause that does not decide puts out nothing. -/
theorem apply_of_not_decides {reference : Option Value} {clause : Clause}
    (h : ¬s.Decides reference (.ok clause)) :
    s.registry.apply clause.modifier (s.callOf reference clause) = none := by
  unfold Registry.apply
  cases hm : s.registry.get? clause.modifier with
  | none => rfl
  | some m =>
    rw [Option.bind_some]
    by_contra hsome
    obtain ⟨output, houtput⟩ := Option.ne_none_iff_exists'.mp hsome
    exact h ⟨m, output, hm, houtput⟩

/-- The warnings about the modifiers of clauses that are not registered, in the order of the
clauses. -/
def unknownModifiers (block : String) (clauses : List (Except ClauseFault Clause)) : List Warning :=
  clauses.filterMap fun
    | .error _ => none
    | .ok clause =>
      if s.registry.has clause.modifier then none
      else some (.unknownModifier block clause.modifier)

/-! ### Passing over clauses -/

section

variable {s} {block : String} {reference : Option Value} {index : Nat}
  {before rest : List (Except ClauseFault Clause)}

/-- What a choice puts out does not depend on the clauses that do not decide. -/
theorem result_chooseFrom_append (h : ∀ entry ∈ before, ¬s.Decides reference entry) :
    (s.chooseFrom block reference index (before ++ rest)).result =
      (s.chooseFrom block reference (index + before.length) rest).result := by
  induction before generalizing index with
  | nil => rfl
  | cons first before ih =>
    have hfirst := h first List.mem_cons_self
    have hbefore := @ih (index + 1) fun entry hentry => h entry (List.mem_cons_of_mem _ hentry)
    cases first with
    | error fault => exact absurd trivial hfirst
    | ok clause =>
      rw [List.cons_append, result_chooseFrom_ok, apply_of_not_decides hfirst, List.length_cons,
        Nat.add_comm before.length 1, ← Nat.add_assoc]
      exact hbefore

/-- Passing over clauses that do not decide gives notice of their unknown modifiers. -/
theorem warnings_chooseFrom_append (h : ∀ entry ∈ before, ¬s.Decides reference entry) :
    (s.chooseFrom block reference index (before ++ rest)).warnings =
      s.unknownModifiers block before ++
        (s.chooseFrom block reference (index + before.length) rest).warnings := by
  induction before generalizing index with
  | nil => rfl
  | cons first before ih =>
    have hfirst := h first List.mem_cons_self
    have hbefore := @ih (index + 1) fun entry hentry => h entry (List.mem_cons_of_mem _ hentry)
    cases first with
    | error fault => exact absurd trivial hfirst
    | ok clause =>
      rw [List.cons_append, warnings_chooseFrom_ok, apply_of_not_decides hfirst, List.length_cons,
        Nat.add_comm before.length 1, ← Nat.add_assoc]
      simp only [hbefore, unknownModifiers, List.filterMap_cons]
      cases s.registry.has clause.modifier <;> rfl

/-- A run goes on with what it yields. -/
theorem bind_congr_result {α β : Type} {run : Run α} {next next' : α → Run β}
    (h : next run.result = next' run.result) : run >>= next = run >>= next' := by
  have hbind (f : α → Run β) : run >>= f = ⟨(f run.result).result,
    run.warnings ++ (f run.result).warnings, run.installed ++ (f run.result).installed⟩ := rfl
  rw [hbind, hbind, h]

/-- Clauses after the one that decides are not looked at. -/
theorem chooseFrom_cons_of_decides {entry : Except ClauseFault Clause}
    (h : s.Decides reference entry) (later later' : List (Except ClauseFault Clause)) :
    s.chooseFrom block reference index (entry :: later) =
      s.chooseFrom block reference index (entry :: later') := by
  cases entry with
  | error fault => rfl
  | ok clause =>
    obtain ⟨m, output, hm, houtput⟩ := h
    have hask : (s.ask clause.modifier (s.callOf reference clause)).result = some output := by
      rw [ask, Registry.apply, hm]
      exact houtput
    rw [chooseFrom, chooseFrom]
    refine bind_congr_result (bind_congr_result ?_)
    rw [hask]

/-- What follows an entry that decides has no influence. -/
theorem chooseFrom_append_cons {entry : Except ClauseFault Clause}
    (h : s.Decides reference entry) (later later' : List (Except ClauseFault Clause)) :
    s.chooseFrom block reference index (before ++ entry :: later) =
      s.chooseFrom block reference index (before ++ entry :: later') := by
  induction before generalizing index with
  | nil => exact chooseFrom_cons_of_decides h later later'
  | cons first before ih =>
    cases first with
    | error fault => rfl
    | ok clause => simp only [List.cons_append, chooseFrom, ih]

end

/-! ### Clauses that cannot decide -/

/-- An entry whose modifier is not registered cannot decide; any other one may. -/
def mayDecide : Except ClauseFault Clause → Bool
  | .error _ => true
  | .ok clause => s.registry.has clause.modifier

/-- Leaving out entries that cannot decide does not change the choice. -/
theorem chosen?_filter (reference : Option Value) (clauses : List (Except ClauseFault Clause)) :
    s.chosen? reference (clauses.filter s.mayDecide) = s.chosen? reference clauses := by
  induction clauses with
  | nil => rfl
  | cons first rest ih =>
    cases first with
    | error fault => rfl
    | ok clause =>
      cases hknown : s.registry.has clause.modifier with
      | true =>
        rw [List.filter_cons_of_pos (by exact hknown), chosen?, chosen?, ih]
      | false =>
        have hnone : s.registry.get? clause.modifier = none := by
          simpa [Registry.has] using hknown
        have hdeclines : s.registry.apply clause.modifier (s.callOf reference clause) = none := by
          rw [Registry.apply, hnone]
          rfl
        rw [List.filter_cons_of_neg (by rw [mayDecide, hknown]; decide), ih,
          chosen?_of_declines s hdeclines]

/-- Clauses whose modifiers are not registered can be left out. -/
theorem result_choose_filter (block reference : String)
    (clauses : List (Except ClauseFault Clause)) :
    (s.choose block reference (clauses.filter s.mayDecide)).result =
      (s.choose block reference clauses).result := by
  rw [choose, choose, result_chooseFrom, result_chooseFrom, chosen?_filter]

/-! ### The least clause that decides -/

/-- The indices of the entries that decide. -/
def decisive (reference : Option Value) (clauses : List (Except ClauseFault Clause)) : Set Nat :=
  {k | ∃ entry, clauses[k]? = some entry ∧ s.Decides reference entry}

variable {s} in
/-- Around the least entry that decides, the clauses fall into those before it, of which none
decides, the entry, and those after it. -/
theorem split_of_isLeast {reference : Option Value} {clauses : List (Except ClauseFault Clause)}
    {k : Nat} {entry : Except ClauseFault Clause} (h : IsLeast (s.decisive reference clauses) k)
    (hentry : clauses[k]? = some entry) :
    clauses = clauses.take k ++ entry :: clauses.drop (k + 1) ∧ (clauses.take k).length = k ∧
      (∀ e ∈ clauses.take k, ¬s.Decides reference e) ∧ s.Decides reference entry := by
  obtain ⟨⟨entry', hentry', hdecides⟩, hleast⟩ := h
  obtain rfl : entry = entry' := Option.some.inj (hentry.symm.trans hentry')
  obtain ⟨hk, rfl⟩ := List.getElem?_eq_some_iff.mp hentry
  refine ⟨?_, List.length_take_of_le (Nat.le_of_lt hk), fun e he hother => ?_, hdecides⟩
  · rw [List.getElem_cons_drop, List.take_append_drop]
  · obtain ⟨j, hj⟩ := List.mem_iff_getElem?.mp he
    rw [List.getElem?_take] at hj
    split at hj
    · next hlt => exact Nat.not_le_of_lt hlt (hleast ⟨e, hj, hother⟩)
    · cases hj

section

variable {s} {block reference : String} {clauses : List (Except ClauseFault Clause)} {k : Nat}

/-- A choice that an incomplete clause decides comes to the default output. -/
theorem choose_of_least_error {fault : ClauseFault}
    (hk : IsLeast (s.decisive (s.params.get? reference) clauses) k)
    (hfault : clauses[k]? = some (.error fault)) :
    (s.choose block reference clauses).result = s.registry.applyDefault ∧
      (s.choose block reference clauses).warnings =
        s.unknownModifiers block (clauses.take k) ++ [.malformedClause block k fault] := by
  obtain ⟨hsplit, hlength, hbefore, -⟩ := split_of_isLeast hk hfault
  rw [choose, hsplit, result_chooseFrom_append hbefore, warnings_chooseFrom_append hbefore, hlength,
    Nat.zero_add, List.take_left' hlength]
  exact ⟨rfl, rfl⟩

/-- A choice that a complete clause decides comes to the output of its modifier. -/
theorem choose_of_least_ok {clause : Clause} {m : Modifier} {output : String}
    (hk : IsLeast (s.decisive (s.params.get? reference) clauses) k)
    (hclause : clauses[k]? = some (.ok clause)) (hm : s.registry.get? clause.modifier = some m)
    (houtput : m.output (s.callOf (s.params.get? reference) clause) = some output) :
    (s.choose block reference clauses).result = Token.filled s.params output ∧
      (s.choose block reference clauses).warnings =
        s.unknownModifiers block (clauses.take k) ++
          (Token.unset s.params output).map .unresolvedParameter := by
  obtain ⟨hsplit, hlength, hbefore, -⟩ := split_of_isLeast hk hclause
  have happly : s.registry.apply clause.modifier (s.callOf (s.params.get? reference) clause) =
      some output := by
    rw [Registry.apply, hm]
    exact houtput
  have hknown : s.registry.has clause.modifier = true := by
    rw [Registry.has, hm]
    rfl
  rw [choose, hsplit, result_chooseFrom_append hbefore, warnings_chooseFrom_append hbefore,
    result_chooseFrom_ok, warnings_chooseFrom_ok, happly, hknown, List.take_left' hlength]
  exact ⟨s.result_substitute output, congrArg _ (s.warnings_substitute output)⟩

/-- The clauses behind the least one that decides can be exchanged. -/
theorem choose_take_append (hk : IsLeast (s.decisive (s.params.get? reference) clauses) k)
    (later : List (Except ClauseFault Clause)) :
    s.choose block reference (clauses.take (k + 1) ++ later) =
      s.choose block reference clauses := by
  obtain ⟨entry, hentry, -⟩ := hk.1
  obtain ⟨hsplit, -, -, hdecides⟩ := split_of_isLeast hk hentry
  have htake : clauses.take (k + 1) = clauses.take k ++ [entry] := by
    rw [List.take_add_one, hentry]
    rfl
  rw [htake, List.append_assoc, choose, choose]
  conv_rhs => rw [hsplit]
  exact chooseFrom_append_cons hdecides later _

/-- A choice that no clause decides comes to the default output. -/
theorem choose_of_undecided (hnone : s.decisive (s.params.get? reference) clauses = ∅) :
    (s.choose block reference clauses).result = s.registry.applyDefault ∧
      (s.choose block reference clauses).warnings =
        s.unknownModifiers block clauses ++ [.noClauseMatched block] := by
  have hall : ∀ entry ∈ clauses, ¬s.Decides (s.params.get? reference) entry := by
    intro entry hmem hdecides
    obtain ⟨k, hk⟩ := List.mem_iff_getElem?.mp hmem
    exact Set.eq_empty_iff_forall_notMem.mp hnone k ⟨entry, hk, hdecides⟩
  have hresult := @result_chooseFrom_append s block _ 0 clauses [] hall
  have hwarnings := @warnings_chooseFrom_append s block _ 0 clauses [] hall
  rw [List.append_nil] at hresult hwarnings
  exact ⟨hresult, hwarnings⟩

end

/-- A choice is decided by the least entry that decides. If it is no complete clause, the default
output stands as it is, and there is a warning with its index and what it lacks. If it is a clause,
its output has its mentions replaced, and there is a warning for each mention of an unset
parameter. If there is none, the default output stands as it is, and there is a warning that no
clause matched. Before these come warnings for the unknown modifiers of the clauses that were
passed over; the context is offered the warnings one by one in this order. Entries after the least
one that decides have no influence, and clauses with unknown modifiers have none on what is put
out. -/
theorem choose_by_least_decisive (registry : Registry) (c : Context) (block reference : String)
    (clauses : List (Except ClauseFault Clause)) :
    let s : Setting := ⟨registry, c.params⟩
    let value := c.params.get? reference
    let run := s.choose block reference clauses
    (∀ k, IsLeast (s.decisive value clauses) k →
      (∀ fault, clauses[k]? = some (.error fault) →
        run.result = registry.applyDefault ∧
        run.warnings = s.unknownModifiers block (clauses.take k) ++
          [.malformedClause block k fault]) ∧
      (∀ clause m output, clauses[k]? = some (.ok clause) →
        registry.get? clause.modifier = some m →
        m.output (s.callOf value clause) = some output →
        run.result = Token.filled c.params output ∧
        run.warnings = s.unknownModifiers block (clauses.take k) ++
          (Token.unset c.params output).map .unresolvedParameter) ∧
      ∀ later, s.choose block reference (clauses.take (k + 1) ++ later) = run) ∧
    (s.decisive value clauses = ∅ →
      run.result = registry.applyDefault ∧
      run.warnings = s.unknownModifiers block clauses ++ [.noClauseMatched block]) ∧
    c.evaluate registry (.choice block reference clauses) =
      (.ok run.result, ⟨c.params, Context.keepAll c.warnings run.warnings⟩) ∧
    (s.choose block reference (clauses.filter s.mayDecide)).result = run.result := by
  intro s value run
  refine ⟨fun k hk => ⟨fun fault hfault => choose_of_least_error hk hfault,
    fun clause m output hclause hm houtput => choose_of_least_ok hk hclause hm houtput,
    choose_take_append hk⟩, choose_of_undecided, ?_, s.result_choose_filter block reference clauses⟩
  rw [Context.evaluate_eq_perform, Context.perform, Evaluation.run, Run.result_map,
    Run.warnings_map]

/-- Four clauses of which the third decides: the modifier of the first is unknown, the second
declines, and the fourth, which lacks a text, is not looked at. -/
theorem choose_by_least_decisive_third :
    let s : Setting := ⟨.builtin, Keyed.ofList [("n", .number 3)]⟩
    let clauses : List (Except ClauseFault Clause) :=
      [.ok ⟨"gone", .number 3, "a"⟩, .ok ⟨"smaller", .string "3", "b"⟩,
        .ok ⟨"equal", .string "3.0", "$n of $m, $m"⟩, .error ⟨[.text]⟩]
    IsLeast (s.decisive (some (.number 3)) clauses) 2 ∧
    (s.choose "b" "n" clauses).result = "3 of -, -" ∧
    (s.choose "b" "n" clauses).warnings =
      [.unknownModifier "b" "gone", .unresolvedParameter "m", .unresolvedParameter "m"] := by
  intro s clauses
  have hequal : s.registry.get? "equal" = some (.comparing (· == .eq)) := by rfl
  have haccepts : (Modifier.comparing (· == .eq)).output
      (s.callOf (some (.number 3)) ⟨"equal", .string "3.0", "$n of $m, $m"⟩) =
      some "$n of $m, $m" := by
    decide +kernel
  have hleast : IsLeast (s.decisive (some (.number 3)) clauses) 2 := by
    refine ⟨⟨_, rfl, _, _, hequal, haccepts⟩, ?_⟩
    rintro j ⟨entry, hentry, hdecides⟩
    match j, hentry with
    | 0, hentry =>
      obtain rfl := Option.some.inj hentry
      obtain ⟨m, output, hm, -⟩ := hdecides
      have hgone : s.registry.has "gone" = false := by decide +kernel
      rw [Registry.has, hm] at hgone
      cases hgone
    | 1, hentry =>
      obtain rfl := Option.some.inj hentry
      obtain ⟨m, output, hm, houtput⟩ := hdecides
      have hdeclines : s.registry.apply "smaller"
          (s.callOf (some (.number 3)) ⟨"smaller", .string "3", "b"⟩) = none := by
        decide +kernel
      rw [Registry.apply, hm, Option.bind_some, houtput] at hdeclines
      cases hdeclines
    | j + 2, _ => exact Nat.le_add_left 2 j
  obtain ⟨-, hclause, -⟩ := (choose_by_least_decisive .builtin
    (Context.fresh (Keyed.ofList [("n", .number 3)])) "b" "n" clauses).1 2 hleast
  obtain ⟨hresult, hwarnings⟩ := hclause _ _ _ rfl hequal haccepts
  refine ⟨hleast, hresult.trans ?_, hwarnings.trans ?_⟩
  · decide +kernel
  · decide +kernel

end Setting

end Phrasebook
