import Phrasebook.Proofs.Expansion.Decision
import Phrasebook.Proofs.Value.Order

/-!
# The built-in comparisons

The five built-in comparisons all ask for the loose order of the reference and the value of the
clause (`Registry.apply_of_lookup`), and that order always exists, is reversed when the two change
sides and makes a value equal to itself. So of smaller, equal and bigger just one accepts, and the
other two modifiers accept where one of two of these does. A choice with a clause for each of the
three comes to the one that accepts, wherever it stands among them (`chosen?_of_perm`); its text is
put out, and nothing but unset mentions in it is noticed (`comparisons_trichotomous`).
-/

namespace Phrasebook

/-! ### Asking a comparison -/

namespace Modifier

/-- The comparisons by name, with the orders they accept. -/
def comparisons : List (String × (Ordering → Bool)) :=
  [("bigger", (· == .gt)), ("bigger_equal", (· != .lt)), ("smaller", (· == .lt)),
    ("smaller_equal", (· != .gt)), ("equal", (· == .eq))]

/-- The comparison that accepts a single order. -/
def ofOrder : Ordering → String
  | .lt => "smaller"
  | .eq => "equal"
  | .gt => "bigger"

/-- The modifier that is named for an ordering accepts that ordering alone. -/
theorem lookup_comparisons_ofOrder (o : Ordering) :
    comparisons.lookup (ofOrder o) = some (· == o) := by
  cases o <;> rfl

end Modifier

namespace Registry

/-- The registry has the built-in comparisons, whatever else it has. -/
def HasComparisons (r : Registry) : Prop :=
  ∀ entry ∈ Modifier.comparisons, r.get? entry.1 = some (Modifier.comparing entry.2)

/-- The modifiers that come with a registry hold the comparisons. -/
theorem hasComparisons_builtin : builtin.HasComparisons := by
  simp only [HasComparisons, Modifier.comparisons, List.forall_mem_cons]
  exact ⟨rfl, rfl, rfl, rfl, rfl, List.forall_mem_nil _⟩

section

variable {r : Registry} (h : r.HasComparisons) {name : String} {accept : Ordering → Bool}

include h

/-- A registry that has the comparisons answers the name of one with it. -/
theorem get?_of_lookup (hname : Modifier.comparisons.lookup name = some accept) :
    r.get? name = some (Modifier.comparing accept) := by
  obtain ⟨before, after, hsplit, -⟩ := List.lookup_eq_some_iff.mp hname
  have hmem : (name, accept) ∈ Modifier.comparisons := by
    rw [hsplit]
    exact List.mem_append_right before List.mem_cons_self
  exact h _ hmem

/-- A comparison puts out the text of the clause if it accepts the order of the two values. -/
theorem apply_of_lookup (hname : Modifier.comparisons.lookup name = some accept) (a b : Value)
    (text : String) (params : Params) :
    r.apply name ⟨some a, b, text, params⟩ = if accept (a.compare b) then some text else none := by
  rw [apply, get?_of_lookup h hname]
  rfl

end

end Registry

namespace Setting

/-! ### Choices in which all acceptance is of one mind -/

variable {s : Setting} {reference : Option Value} {output : String}
  {clauses : List (Except ClauseFault Clause)}

/-- A choice whose clauses are complete and put out one text, if any, puts out that text if one of
them accepts. -/
theorem chosen?_of_unanimous
    (hall : ∀ entry ∈ clauses, ∃ clause, entry = .ok clause ∧
      (s.registry.apply clause.modifier (s.callOf reference clause) = none ∨
        s.registry.apply clause.modifier (s.callOf reference clause) = some output))
    (hsome : ∃ clause, .ok clause ∈ clauses ∧
      s.registry.apply clause.modifier (s.callOf reference clause) = some output) :
    s.chosen? reference clauses = some output := by
  induction clauses with
  | nil =>
    obtain ⟨clause, hmem, -⟩ := hsome
    exact absurd hmem List.not_mem_nil
  | cons first rest ih =>
    obtain ⟨clause, rfl, hclause⟩ := hall first List.mem_cons_self
    rcases hclause with hdeclines | haccepts
    · rw [chosen?_of_declines s hdeclines]
      refine ih (fun entry hentry => hall entry (List.mem_cons_of_mem _ hentry)) ?_
      obtain ⟨accepting, hmem, haccepts⟩ := hsome
      rcases List.mem_cons.mp hmem with heq | hmem
      · obtain rfl := Except.ok.inj heq
        rw [hdeclines] at haccepts
        cases haccepts
      · exact ⟨accepting, hmem, haccepts⟩
    · exact chosen?_of_accepts s haccepts rest

/-- A choice that comes to an output and knows all modifiers gives notice of the output alone. -/
theorem warnings_chooseFrom_of_chosen {block : String} {index : Nat}
    (hknown : ∀ clause, .ok clause ∈ clauses → s.registry.has clause.modifier = true)
    (hchosen : s.chosen? reference clauses = some output) :
    (s.chooseFrom block reference index clauses).warnings = (s.substitute output).warnings := by
  induction clauses generalizing index with
  | nil => cases hchosen
  | cons first rest ih =>
    cases first with
    | error fault => cases hchosen
    | ok clause =>
      rw [warnings_chooseFrom_ok, hknown clause List.mem_cons_self, if_pos rfl, List.nil_append]
      cases happly : s.registry.apply clause.modifier (s.callOf reference clause) with
      | some accepted =>
        rw [chosen?_of_accepts s happly] at hchosen
        obtain rfl := Option.some.inj hchosen
        rfl
      | none =>
        rw [chosen?_of_declines s happly] at hchosen
        exact ih (fun later hlater => hknown later (List.mem_cons_of_mem _ hlater)) hchosen

/-! ### A clause for each order -/

section

variable {s : Setting} {a b : Value} {texts : Ordering → String}
  {clauses : List (Except ClauseFault Clause)}

/-- Clauses for the three orders between the reference and one value, each with its text. -/
def threeWay (b : Value) (texts : Ordering → String) : List (Except ClauseFault Clause) :=
  [.lt, .eq, .gt].map fun o => .ok ⟨Modifier.ofOrder o, b, texts o⟩

/-- A clause of the three belongs to one of the orderings. -/
theorem mem_threeWay {entry : Except ClauseFault Clause} :
    entry ∈ threeWay b texts ↔ ∃ o, entry = .ok ⟨Modifier.ofOrder o, b, texts o⟩ := by
  constructor
  · intro h
    obtain ⟨o, -, rfl⟩ := List.mem_map.mp h
    exact ⟨o, rfl⟩
  · rintro ⟨o, rfl⟩
    exact List.mem_map_of_mem (by cases o <;> decide)

/-- A registry that has the comparisons knows the modifier of each ordering. -/
theorem has_ofOrder (hs : s.registry.HasComparisons) (o : Ordering) :
    s.registry.has (Modifier.ofOrder o) = true := by
  rw [Registry.has, Registry.get?_of_lookup hs (Modifier.lookup_comparisons_ofOrder o)]
  rfl

/-- Wherever the clause for the order of the two values stands, the choice comes to its text. -/
theorem chosen?_of_perm (hs : s.registry.HasComparisons)
    (h : clauses.Perm (threeWay b texts)) :
    s.chosen? (some a) clauses = some (texts (a.compare b)) := by
  have happly (o : Ordering) : s.registry.apply (Modifier.ofOrder o)
      (s.callOf (some a) ⟨Modifier.ofOrder o, b, texts o⟩) =
      if a.compare b == o then some (texts o) else none :=
    Registry.apply_of_lookup hs (Modifier.lookup_comparisons_ofOrder o) a b (texts o) s.params
  apply chosen?_of_unanimous
  · intro entry hentry
    obtain ⟨o, rfl⟩ := mem_threeWay.mp (h.mem_iff.mp hentry)
    refine ⟨_, rfl, ?_⟩
    rw [happly o]
    by_cases ho : a.compare b = o
    · right
      rw [ho, if_pos (beq_self_eq_true o)]
    · left
      exact if_neg (by simpa using ho)
  · refine ⟨_, h.mem_iff.mpr (mem_threeWay.mpr ⟨a.compare b, rfl⟩), ?_⟩
    rw [happly, if_pos (beq_self_eq_true _)]

/-- A block with clauses for the three orders puts out the text for the order of the two values,
and nothing but unset mentions in it is noticed. -/
theorem expandBlock_of_perm (hs : s.registry.HasComparisons) {content reference logic : String}
    (hreference : s.params.get? reference = some a)
    (hkind : BlockKind.ofContent content = .ok (.choice reference logic))
    (h : (Clause.resolveAll s.params logic).Perm (threeWay b texts)) :
    (s.expandBlock content).result = .ok (Token.filled s.params (texts (a.compare b))) ∧
      (s.expandBlock content).warnings =
        (Token.unset s.params (texts (a.compare b))).map .unresolvedParameter := by
  have hchosen := chosen?_of_perm (a := a) hs h
  have hknown : ∀ clause, .ok clause ∈ Clause.resolveAll s.params logic →
      s.registry.has clause.modifier = true := by
    intro clause hclause
    obtain ⟨o, ho⟩ := mem_threeWay.mp (h.mem_iff.mp hclause)
    obtain rfl := Except.ok.inj ho
    exact has_ofOrder hs o
  rw [expandBlock_of_choice s hkind, Run.result_map, Run.warnings_map, choose, hreference,
    result_chooseFrom, warnings_chooseFrom_of_chosen hknown hchosen, hchosen]
  exact ⟨congrArg Except.ok (s.result_substitute _), s.warnings_substitute _⟩

end

end Setting

/-- Any two values have one order; it is reversed when they change sides, and a value is equal to
itself. Of smaller, equal and bigger just one puts out the text of the clause, and the others
decline; bigger_equal does what bigger or equal does, smaller_equal what smaller or equal does, and
bigger does what smaller does with the values on the other sides. So a block with a clause for each
order between a set reference and one value, in any order of the clauses, puts out the text for the
order of the two with its mentions replaced, and gives notice of unset mentions in it alone. -/
theorem comparisons_trichotomous {r : Registry} (hr : r.HasComparisons) (a b : Value)
    (params : Params) :
    (a.compare? b = some (a.compare b) ∧ b.compare? a = (a.compare? b).map Ordering.swap ∧
      a.compare? a = some .eq) ∧
    (∀ text : String,
      let answer (name : String) (x y : Value) := r.apply name ⟨some x, y, text, params⟩
      (answer "smaller" a b = some text ∧ answer "equal" a b = none ∧ answer "bigger" a b = none ∨
        answer "smaller" a b = none ∧ answer "equal" a b = some text ∧ answer "bigger" a b = none ∨
        answer "smaller" a b = none ∧ answer "equal" a b = none ∧ answer "bigger" a b = some text) ∧
      answer "bigger_equal" a b = (answer "bigger" a b <|> answer "equal" a b) ∧
      answer "smaller_equal" a b = (answer "smaller" a b <|> answer "equal" a b) ∧
      answer "bigger" a b = answer "smaller" b a) ∧
    ∀ (content reference logic : String) (texts : Ordering → String),
      params.get? reference = some a →
      BlockKind.ofContent content = .ok (.choice reference logic) →
      (Clause.resolveAll params logic).Perm (Setting.threeWay b texts) →
      let run := (Setting.mk r params).expandBlock content
      run.result = .ok (Token.filled params (texts (a.compare b))) ∧
      run.warnings =
        (Token.unset params (texts (a.compare b))).map .unresolvedParameter ∧
      ∀ block, .noClauseMatched block ∉ run.warnings := by
  refine ⟨⟨Value.compare?_eq a b, ?_, ?_⟩, fun text => ?_,
    fun content reference logic texts hreference hkind hclauses => ?_⟩
  · rw [Value.compare?_eq, Value.compare?_eq, Value.compare_swap]
    rfl
  · rw [Value.compare?_eq, Value.compare_self]
  · intro answer
    have hanswer {name : String} {accept : Ordering → Bool}
        (hname : Modifier.comparisons.lookup name = some accept) (x y : Value) :
        answer name x y = if accept (x.compare y) then some text else none :=
      Registry.apply_of_lookup hr hname x y text params
    have hbigger := @hanswer "bigger" _ rfl
    have hsmaller := @hanswer "smaller" _ rfl
    -- with the values on the other sides the order is swapped, so one order decides all answers
    rw [hbigger, hsmaller, hsmaller, @hanswer "equal" _ rfl, @hanswer "bigger_equal" _ rfl,
      @hanswer "smaller_equal" _ rfl, Value.compare_swap a b]
    cases a.compare b <;> simp
  · obtain ⟨hresult, hwarnings⟩ :=
      (Setting.mk r params).expandBlock_of_perm hr hreference hkind hclauses
    refine ⟨hresult, hwarnings, fun block hmem => ?_⟩
    rw [hwarnings] at hmem
    obtain ⟨name, -, hname⟩ := List.mem_map.mp hmem
    cases hname

/-- A block with the clauses for bigger, smaller and equal in this order, of which the last one,
written against a parameter like the others, puts out its text. -/
theorem comparisons_trichotomous_reordered :
    let params : Params := Keyed.ofList [("n", .string "3.0"), ("m", .number 3)]
    let content :=
      "ref=n||modi=mod=bigger:val=$m:text=more;mod=smaller:val=$m:text=less;" ++
        "mod=equal:val=$m:text=$n is $m, $k"
    ((Setting.mk .builtin params).expandBlock content).result = .ok "3.0 is 3, -" ∧
      ((Setting.mk .builtin params).expandBlock content).warnings = [.unresolvedParameter "k"] ∧
      (Value.number 3).compare? (.string "3.0") = some .eq := by
  intro params content
  let logic := "modi=mod=bigger:val=$m:text=more;mod=smaller:val=$m:text=less;" ++
    "mod=equal:val=$m:text=$n is $m, $k"
  let texts : Ordering → String
    | .lt => "less"
    | .eq => "$n is $m, $k"
    | .gt => "more"
  have hkind : BlockKind.ofContent content = .ok (.choice "n" logic) := by decide +kernel
  have hdrafts : Clause.drafts logic =
      [⟨some "bigger", some (.parameter "m"), some "more"⟩,
        ⟨some "smaller", some (.parameter "m"), some "less"⟩,
        ⟨some "equal", some (.parameter "m"), some "$n is $m, $k"⟩] := by
    decide +kernel
  have hvalue : Clause.operandValue params (.parameter "m") = .number 3 := by rfl
  have hclauses : (Clause.resolveAll params logic).Perm (Setting.threeWay (.number 3) texts) := by
    rw [Clause.resolveAll, hdrafts]
    simp only [List.map_cons, List.map_nil, Clause.Draft.resolve, hvalue]
    exact (List.perm_append_singleton _ [_, _]).symm
  have hequal : Value.compare (.string "3.0") (.number 3) = .eq := by decide +kernel
  obtain ⟨⟨-, hswap, -⟩, -, hblock⟩ := comparisons_trichotomous Registry.hasComparisons_builtin
    (.string "3.0") (.number 3) params
  obtain ⟨hresult, hwarnings, -⟩ := hblock content "n" logic texts (by rfl) hkind hclauses
  rw [hequal] at hresult hwarnings
  refine ⟨hresult.trans ?_, hwarnings.trans ?_, ?_⟩
  · decide +kernel
  · decide +kernel
  · rw [hswap, Value.compare?_eq, hequal]
    rfl

end Phrasebook
