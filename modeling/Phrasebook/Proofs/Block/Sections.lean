import Mathlib.Data.List.Basic
import Phrasebook.Block
import Phrasebook.Proofs.Text.Split

/-!
# Sections are merged from left to right

What a block's content says is put together from what each of its sections says. Joining two
contents joins their lists of sections, unless a bar at the end of the first one shifts the seam, so
the whole says what the second content says and, where that says nothing, what the first one does
(`ofContent_append_bars`). Sections that speak of different things may then change places
(`ofContent_eq_of_swapped`), and a section that should assign a name but does not
(`AssignsNothing`) leaves the name that was assigned before. What kind of block it is follows from
the merged sections alone (`kind_iff`).
-/

namespace Phrasebook

open Text (splitBars cutAt? trim)

namespace Sections

/-! ### Merging -/

/-- Contributions merged onto a first one can be merged by themselves and put after it. -/
theorem foldl_followedBy (first : Sections) (rest : List Sections) :
    rest.foldl followedBy first = first.followedBy (rest.foldl followedBy empty) := by
  induction rest generalizing first with
  | nil => exact (followedBy_empty first).symm
  | cons next rest ih =>
    rw [List.foldl_cons, List.foldl_cons, ih (first.followedBy next), ih (empty.followedBy next),
      empty_followedBy, followedBy_assoc]

/-- What a list of sections says, from what its two parts say. -/
theorem foldl_followedBy_append (first rest : List Sections) :
    (first ++ rest).foldl followedBy empty =
      (first.foldl followedBy empty).followedBy (rest.foldl followedBy empty) := by
  rw [List.foldl_append, foldl_followedBy]

/-- The sections of joined contents are merged, the second content going first. -/
theorem ofContent_append_bars {a : String} (h : a.toList.getLast? ≠ some '|') (b : String) :
    ofContent (a ++ "||" ++ b) = (ofContent a).followedBy (ofContent b) := by
  have htext : (a ++ "||" ++ b).toList = a.toList ++ '|' :: '|' :: b.toList := by simp
  unfold ofContent
  rw [htext, Text.splitBars_append_bars h, List.map_append, foldl_followedBy_append]

/-- A content without a separator is one section. -/
theorem ofContent_eq_ofSection {part : String} (h : ¬ "||".toList <:+: part.toList) :
    ofContent part = ofSection part.toList := by
  unfold ofContent
  rw [Text.splitBars_eq_singleton h]
  exact empty_followedBy _

/-! ### Changing places -/

/-- Contributions that have nothing of one kind in common. -/
structure Apart (a b : Sections) : Prop where
  parameter : a.parameter = none ∨ b.parameter = none
  reference : a.reference = none ∨ b.reference = none
  logic : a.logic = none ∨ b.logic = none

/-- Of two alternatives of which one is absent, either may stand first. -/
theorem orElse_comm_of_none {α : Type} {x y : Option α} (h : x = none ∨ y = none) :
    (x <|> y) = (y <|> x) := by
  rcases h with rfl | rfl
  · cases y <;> rfl
  · cases x <;> rfl

/-- Contributions of different kinds may change places. -/
theorem Apart.followedBy_comm {a b : Sections} (h : a.Apart b) :
    a.followedBy b = b.followedBy a := by
  unfold followedBy
  rw [orElse_comm_of_none h.parameter, orElse_comm_of_none h.reference,
    orElse_comm_of_none h.logic]

/-- Two neighbouring sections that have nothing in common may change places. -/
theorem ofContent_eq_of_swapped {x y : String} {before after : List (List Char)}
    {s t : List Char} (hx : splitBars x.toList = before ++ s :: t :: after)
    (hy : splitBars y.toList = before ++ t :: s :: after)
    (h : (ofSection s).Apart (ofSection t)) : ofContent x = ofContent y := by
  have hpair (s t : List Char) : ([s, t].map ofSection).foldl followedBy empty =
      (ofSection s).followedBy (ofSection t) := by
    rw [List.map_cons, List.map_singleton, List.foldl_cons, List.foldl_cons, List.foldl_nil,
      empty_followedBy]
  have hsplit (s t : List Char) : before ++ s :: t :: after = before ++ ([s, t] ++ after) := rfl
  unfold ofContent
  rw [hx, hy, hsplit, hsplit, List.map_append, List.map_append, List.map_append, List.map_append,
    foldl_followedBy_append, foldl_followedBy_append, foldl_followedBy_append,
    foldl_followedBy_append, hpair, hpair, h.followedBy_comm]

/-! ### Sections that assign nothing -/

/-- A section that assigns no name: it holds no equals sign or several, or nothing but blanks
follows the one it holds. -/
def AssignsNothing (part : List Char) : Prop :=
  part.count '=' ≠ 1 ∨ ∃ key value, part = key ++ '=' :: value ∧ trim value = []

/-- The only equals sign of a section stands neither in the key nor in the value. -/
theorem not_mem_of_count_eq_one {key value : List Char}
    (h : (key ++ '=' :: value).count '=' = 1) : '=' ∉ key ∧ '=' ∉ value := by
  rw [List.count_append, List.count_cons_self] at h
  exact ⟨List.count_eq_zero.mp (by omega), List.count_eq_zero.mp (by omega)⟩

/-- A section with no equals sign, or with several, assigns no name. -/
theorem assigned?_of_count_ne {part : List Char} (h : part.count '=' ≠ 1) :
    assigned? part = none := by
  unfold assigned?
  split
  · next key value hcut =>
    obtain ⟨rfl, hkey⟩ := Text.eq_of_cutAt?_eq_some hcut
    have hvalue : '=' ∈ value := by
      by_contra hnot
      rw [List.count_append, List.count_eq_zero.mpr hkey, List.count_cons_self,
        List.count_eq_zero.mpr hnot] at h
      exact h rfl
    rw [if_pos (Or.inl hvalue)]
  · rfl

/-- The name that a section with one equals sign assigns. -/
theorem assigned?_of_count_eq {key value : List Char}
    (h : (key ++ '=' :: value).count '=' = 1) :
    assigned? (key ++ '=' :: value) =
      if trim value = [] then none else some (String.ofList (trim value)) := by
  obtain ⟨hkey, hvalue⟩ := not_mem_of_count_eq_one h
  simp only [assigned?, Text.cutAt?_append_cons hkey, hvalue, false_or]

/-- These are the sections that fail to assign a name. -/
theorem assigned?_eq_none_iff {part : List Char} :
    assigned? part = none ↔ AssignsNothing part := by
  by_cases hcount : part.count '=' = 1
  · have hmem : '=' ∈ part := List.count_pos_iff.mp (by omega)
    constructor
    · intro hnone
      obtain ⟨key, value, rfl⟩ := List.append_of_mem hmem
      rw [assigned?_of_count_eq hcount, ite_eq_left_iff] at hnone
      exact Or.inr ⟨key, value, rfl, by simpa using hnone⟩
    · rintro (hother | ⟨key, value, rfl, hblank⟩)
      · exact absurd hcount hother
      · rw [assigned?_of_count_eq hcount, if_pos hblank]
  · exact ⟨fun _ => Or.inl hcount, fun _ => assigned?_of_count_ne hcount⟩

/-- A section that assigns nothing names no parameter and no reference, and with the mark of a
parameter it says nothing at all. -/
theorem ofSection_of_assignsNothing {part : List Char} (h : AssignsNothing part) :
    (ofSection part).parameter = none ∧ (ofSection part).reference = none ∧
      (parameterMark.toList <:+: part → (ofSection part).logic = none) := by
  have hnone := assigned?_eq_none_iff.mpr h
  unfold ofSection
  rw [hnone, ite_self]
  split
  · exact ⟨rfl, rfl, fun _ => rfl⟩
  · next hmark =>
    refine ⟨?_, ?_, fun hin => absurd hin hmark⟩
    all_goals
      simp only
      split <;> rfl

/-! ### The kind of a block -/

/-- The sections decide the kind of the block: a parameter goes before everything else, a choice
needs a reference and logic, and a fault tells which of these two are not there. -/
theorem kind_iff (s : Sections) :
    (∀ name, s.kind = .ok (.parameter name) ↔ s.parameter = some name) ∧
    (∀ reference logic, s.kind = .ok (.choice reference logic) ↔
      s.parameter = none ∧ s.reference = some reference ∧ s.logic = some logic) ∧
    (s.kind = .error .missingReference ↔
      s.parameter = none ∧ s.reference = none ∧ s.logic ≠ none) ∧
    (s.kind = .error .missingLogic ↔
      s.parameter = none ∧ s.reference ≠ none ∧ s.logic = none) ∧
    (s.kind = .error .noSections ↔
      s.parameter = none ∧ s.reference = none ∧ s.logic = none) := by
  obtain ⟨parameter, reference, logic⟩ := s
  cases parameter <;> cases reference <;> cases logic <;> simp [kind]

/-- Contents that are joined say together what the second says and, where it says nothing of a kind,
what the first does; the kind of the joined block follows from that. So neighbouring sections of
different kinds may change places, and a section that assigns nothing leaves the names that were
assigned before it. -/
theorem merged_from_left_to_right :
    (∀ a b : String, a.toList.getLast? ≠ some '|' →
      let content := a ++ "||" ++ b
      let parameter := (ofContent b).parameter <|> (ofContent a).parameter
      let reference := (ofContent b).reference <|> (ofContent a).reference
      let logic := (ofContent b).logic <|> (ofContent a).logic
      ofContent content = ⟨parameter, reference, logic⟩ ∧
      (∀ name, BlockKind.ofContent content = .ok (.parameter name) ↔ parameter = some name) ∧
      (∀ r l, BlockKind.ofContent content = .ok (.choice r l) ↔
        parameter = none ∧ reference = some r ∧ logic = some l) ∧
      (BlockKind.ofContent content = .error .missingReference ↔
        parameter = none ∧ reference = none ∧ logic ≠ none) ∧
      (BlockKind.ofContent content = .error .missingLogic ↔
        parameter = none ∧ reference ≠ none ∧ logic = none) ∧
      (BlockKind.ofContent content = .error .noSections ↔
        parameter = none ∧ reference = none ∧ logic = none)) ∧
    (∀ (x y : String) (before after : List (List Char)) (s t : List Char),
      splitBars x.toList = before ++ s :: t :: after →
      splitBars y.toList = before ++ t :: s :: after →
      (ofSection s).Apart (ofSection t) → ofContent x = ofContent y) ∧
    (∀ a part : String, a.toList.getLast? ≠ some '|' → ¬ "||".toList <:+: part.toList →
      AssignsNothing part.toList →
      (ofContent (a ++ "||" ++ part)).parameter = (ofContent a).parameter ∧
      (ofContent (a ++ "||" ++ part)).reference = (ofContent a).reference ∧
      (parameterMark.toList <:+: part.toList →
        (ofContent (a ++ "||" ++ part)).logic = (ofContent a).logic)) := by
  refine ⟨fun a b ha => ?_, fun x y before after s t hx hy h => ofContent_eq_of_swapped hx hy h,
    fun a part ha hpart hnothing => ?_⟩
  · intro content parameter reference logic
    have hmerged : ofContent content = ⟨parameter, reference, logic⟩ := ofContent_append_bars ha b
    refine ⟨hmerged, ?_⟩
    unfold BlockKind.ofContent
    rw [hmerged]
    exact kind_iff _
  · obtain ⟨hparameter, hreference, hlogic⟩ := ofSection_of_assignsNothing hnothing
    rw [ofContent_append_bars ha, ofContent_eq_ofSection hpart]
    unfold followedBy
    rw [hparameter, hreference]
    refine ⟨rfl, rfl, fun hmark => ?_⟩
    rw [hlogic hmark]
    rfl

/-- A seam of three bars, the last of which belongs to the logic, between a parameter without a name
before it and a reference with two equals signs after it; a reference and logic that change places;
and a reference that a blank one does not replace. -/
theorem merged_from_left_to_right_three_bars :
    BlockKind.ofContent ("ref=r||var= " ++ "||" ++ "|modi=m||ref=a=b") =
      .ok (.choice "r" "|modi=m") ∧
    ofContent "ref=r||modi=m" = ofContent "modi=m||ref=r" ∧
    (ofContent ("var=v||ref=r" ++ "||" ++ "ref= ")).reference = some "r" := by
  obtain ⟨hmerged, hswapped, hnothing⟩ := merged_from_left_to_right
  have hapart : (ofSection "ref=r".toList).Apart (ofSection "modi=m".toList) :=
    ⟨by decide +kernel, by decide +kernel, by decide +kernel⟩
  refine ⟨?_, hswapped _ _ [] [] _ _ (by decide +kernel) (by decide +kernel) hapart, ?_⟩
  · exact ((hmerged "ref=r||var= " "|modi=m||ref=a=b" (by decide)).2.2.1 "r" "|modi=m").mpr
      (by decide +kernel)
  · have hblank : AssignsNothing "ref= ".toList :=
      Or.inr ⟨"ref".toList, " ".toList, rfl, by decide⟩
    rw [(hnothing "var=v||ref=r" "ref= " (by decide) (by decide) hblank).2.1]
    decide +kernel

end Sections

end Phrasebook
