import Phrasebook.Proofs.Clause.Written
import Phrasebook.Proofs.Modifier.Comparison
import Phrasebook.Proofs.Value.Order

/-!
# Comparisons of integers

Two integers given as numbers are compared exactly, and as doubles if one of them is a text. So their
own order comes out unless they are distinct and rounded to the same double; then they count as
equal (`integers_compared_rounded`). A clause with a literal holds a text, so its comparison is of
the second kind whatever the reference. That such a clause is read back asks nothing of the integer,
as its text holds only digits and a sign (`Clause.Written.Legible.withDecimal`).
-/

namespace Phrasebook

open Double (roundInt)

namespace Clause.Written

open Decimal (isBlank_of_mem_toString not_mem_toString)

/-! ### Clauses with decimal texts -/

/-- The clause with the decimal text of an integer as its value. -/
def withDecimal (c : Written) (n : Int) : Written :=
  { c with operand := .literal (toString n) }

/-- The decimal text of an integer can stand in logic. -/
theorem plain_toString (n : Int) : Plain (toString n).toList where
  no_brace := not_mem_toString (by decide) (by decide)
  no_return := not_mem_toString (by decide) (by decide)
  no_feed := not_mem_toString (by decide) (by decide)
  no_bars h := not_mem_toString (c := '|') (by decide) (by decide) (h.subset (by decide))
  no_parameter_mark h :=
    not_mem_toString (c := '=') (by decide) (by decide) (h.subset (by decide))

/-- A clause stays legible with the decimal text of any integer as its value. -/
theorem Legible.withDecimal {c : Written} (h : c.Legible) (n : Int) : (c.withDecimal n).Legible := by
  have hoperand : OperandLegible (.literal (toString n)) := by
    intro name _ htrim
    rw [Text.trim_of_forall_not_blank fun x hx => isBlank_of_mem_toString hx] at htrim
    have hmention : '$' ∈ (toString n).toList := by
      rw [htrim]
      exact List.mem_cons_self
    exact not_mem_toString (by decide) (by decide) hmention
  have hfields (field : Field) : Plain ((c.withDecimal n).content field).toList ∧
      separator ∉ ((c.withDecimal n).content field).toList ∧
      ∀ piece ∈ (((c.withDecimal n).content field).toList.splitOn fieldSeparator).tail,
        Continues field piece := by
    cases field with
    | modifier => exact ⟨h.plain .modifier, h.no_separator .modifier, h.continued .modifier⟩
    | value =>
      have hvalue : ((c.withDecimal n).content .value).toList = (toString n).toList := rfl
      rw [hvalue, List.splitOn_eq_singleton (not_mem_toString (by decide) (by decide))]
      exact ⟨plain_toString n, not_mem_toString (by decide) (by decide), by simp⟩
    | text => exact ⟨h.plain .text, h.no_separator .text, h.continued .text⟩
  exact ⟨h.order_perm, h.modifier_trimmed, hoperand, fun field => (hfields field).1,
    fun field => (hfields field).2.1, fun field => (hfields field).2.2⟩

/-- A clause with a decimal text resolves to a comparison with that text. -/
theorem resolve_withDecimal {c : Written} (h : c.Legible) (n : Int) (params : Params) :
    (Draft.parse (c.withDecimal n).render.toList).resolve params =
      .ok ⟨c.modifier, .string (toString n), c.text⟩ := by
  rw [parse_render (h.withDecimal n)]
  rfl

end Clause.Written

/-- Integers of 64 bits have a loose order, however they are given. It is their own order if both
are numbers; if one is a decimal text, it is the order of the two after rounding to 53 bits. That is
their own order just if they are equal or rounded to distinct integers, as they are up to `2 ^ 53`,
and otherwise they count as equal. A clause that asks one of the five comparisons for the decimal
text of an integer is read back, and puts out its text if the comparison accepts the order of the
rounded integers. -/
theorem integers_compared_rounded (n m : Int64) (f g : Value.Form) :
    let found := (f.write n).compare (g.write m)
    let order := compare n.toInt m.toInt
    let rounded := compare (roundInt n.toInt) (roundInt m.toInt)
    (f.write n).compare? (g.write m) = some found ∧
    found = (if f = .number ∧ g = .number then order else rounded) ∧
    (found = order ↔
      (f = .number ∧ g = .number) ∨ n = m ∨ roundInt n.toInt ≠ roundInt m.toInt) ∧
    (found = order ∨ found = .eq) ∧
    (n.toInt.natAbs ≤ 2 ^ 53 → m.toInt.natAbs ≤ 2 ^ 53 → found = order) ∧
    ∀ (s : Setting) (c : Clause.Written) (accept : Ordering → Bool),
      s.registry.HasComparisons → c.Legible →
      Modifier.comparisons.lookup c.modifier = some accept →
      ∃ clause,
        (Clause.Draft.parse (c.withDecimal m.toInt).render.toList).resolve s.params = .ok clause ∧
        s.registry.apply clause.modifier (s.callOf (some (f.write n)) clause) =
          if accept rounded then some c.text else none := by
  intro found order rounded
  have hfound : found = if f = .number ∧ g = .number then order else rounded :=
    Value.compare_write n m f g
  have hiff : rounded = order ↔ n = m ∨ roundInt n.toInt ≠ roundInt m.toInt := by
    rw [← Int64.toInt_inj]
    exact Double.compare_roundInt_eq_iff n.toInt m.toInt
  refine ⟨Value.compare?_eq _ _, hfound, ?_, ?_, ?_, ?_⟩
  · rw [hfound]
    by_cases hnumbers : f = .number ∧ g = .number
    · simp only [hnumbers, and_self, if_true, true_or]
    · simp only [hnumbers, if_false, false_or, hiff]
  · rw [hfound]
    split
    · exact Or.inl rfl
    · exact Double.compare_roundInt n.toInt m.toInt
  · intro hn hm
    have hexact : rounded = order := by
      simp only [rounded, order, Double.roundInt_eq_self hn, Double.roundInt_eq_self hm]
    rw [hfound, hexact, ite_self]
  · intro s c accept hs hc haccept
    -- the value of the clause is a text, so the rounded integers decide whatever the reference is
    refine ⟨_, Clause.Written.resolve_withDecimal hc m.toInt s.params, ?_⟩
    have horder : (f.write n).compare (.string (toString m.toInt)) = rounded := by
      rw [show Value.string (toString m.toInt) = Value.Form.text.write m from rfl,
        Value.compare_write, if_neg (by simp)]
    rw [Setting.callOf, Registry.apply_of_lookup hs haccept, horder]

/-- The two greatest integers up to the limit, one as a number and one as a text, keep their order,
and the clause that asks for it puts out its text. -/
theorem integers_compared_rounded_up_to_limit :
    let c : Clause.Written := ⟨"bigger", .literal "0", "over", Field.all⟩
    (Value.Form.number.write 9007199254740992).compare
        (Value.Form.text.write 9007199254740991) = .gt ∧
      (c.withDecimal 9007199254740991).render = "mod=bigger:val=9007199254740991:text=over" ∧
      ∃ clause,
        (Clause.Draft.parse (c.withDecimal 9007199254740991).render.toList).resolve ∅ =
          .ok clause ∧
        Registry.builtin.apply clause.modifier
            ⟨some (.number 9007199254740992), clause.value, clause.text, ∅⟩ = some "over" := by
  intro c
  obtain ⟨-, -, -, -, hexact, hclause⟩ :=
    integers_compared_rounded 9007199254740992 9007199254740991 .number .text
  obtain ⟨clause, hresolve, happly⟩ :=
    hclause ⟨.builtin, ∅⟩ c (· == .gt) Registry.hasComparisons_builtin (by decide +kernel) rfl
  refine ⟨(hexact (by decide) (by decide)).trans (by decide), by decide +kernel, clause, ?_, ?_⟩
  · exact hresolve
  · exact happly.trans (by decide +kernel)

/-- One above the limit, a number is no longer told from the text of its neighbour: it is greater,
but a block that asks for their equality puts out its text. -/
theorem integers_beyond_limit_equal :
    let n : Int64 := 9007199254740993
    let m : Int64 := 9007199254740992
    compare n.toInt m.toInt = .gt ∧
      (Value.Form.number.write n).compare (Value.Form.text.write m) = .eq ∧
      (Value.Form.number.write n).compare (Value.Form.number.write m) = .gt ∧
      ((Setting.mk .builtin (Keyed.ofList [("n", Value.Form.number.write n)])).expandBlock
        "ref=n||modi=mod=equal:val=9007199254740992:text=same").result = .ok "same" := by
  decide +kernel

end Phrasebook
