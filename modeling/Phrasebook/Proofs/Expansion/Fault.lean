import Phrasebook.Expansion

/-!
# What stops an expansion

An expansion yields a text or stops at a malformed block. Which of the two it does, and at which
block, is read off the segments alone: `firstFault?` finds the leftmost block whose content is
neither a parameter nor a choice, without parameters and without a registry. `expandSegments` fails
with that block if there is one (`result_expandSegments_of_fault`) and succeeds if there is none
(`exists_result_expandSegments`); the blocks that it comes to are those before it
(`Template.reached`).
-/

namespace Phrasebook

namespace Template

/-- The block that stops an expansion at a segment, and what is wrong with it. -/
def faultAt? : Segment → Option (Block × BlockFault)
  | .literal _ => none
  | .block b =>
    match BlockKind.ofContent b.content with
    | .error reason => some (b, reason)
    | .ok _ => none

/-- The leftmost malformed block among segments, and what is wrong with it. -/
def firstFault? (segments : List Segment) : Option (Block × BlockFault) :=
  segments.findSome? faultAt?

/-- A block whose content is no block is a fault, for the reason that reading it gives. -/
theorem faultAt?_of_error {b : Block} {reason : BlockFault}
    (h : BlockKind.ofContent b.content = .error reason) :
    faultAt? (.block b) = some (b, reason) := by
  simp only [faultAt?, h]

/-- A block whose content can be read is no fault. -/
theorem faultAt?_of_ok {b : Block} {kind : BlockKind}
    (h : BlockKind.ofContent b.content = .ok kind) : faultAt? (.block b) = none := by
  simp only [faultAt?, h]

/-- Only a malformed block stops an expansion. -/
theorem eq_block_of_faultAt? {segment : Segment} {b : Block} {reason : BlockFault}
    (h : faultAt? segment = some (b, reason)) :
    segment = .block b ∧ BlockKind.ofContent b.content = .error reason := by
  cases segment with
  | literal text => cases h
  | block b' =>
    cases hkind : BlockKind.ofContent b'.content with
    | ok kind =>
      rw [faultAt?_of_ok hkind] at h
      cases h
    | error reason' =>
      rw [faultAt?_of_error hkind] at h
      cases h
      exact ⟨rfl, hkind⟩

/-- The first fault is one of the blocks. -/
theorem mem_of_firstFault? {segments : List Segment} {b : Block} {reason : BlockFault}
    (h : firstFault? segments = some (b, reason)) : .block b ∈ segments := by
  obtain ⟨segment, hmem, hfault⟩ := List.exists_of_findSome?_eq_some h
  rw [← (eq_block_of_faultAt? hfault).1]
  exact hmem

/-! ### The blocks that an expansion comes to -/

/-- The blocks before the first malformed one. -/
def reached (segments : List Segment) : List Block :=
  (segments.takeWhile fun segment => (faultAt? segment).isNone).filterMap fun
    | .literal _ => none
    | .block b => some b

/-- A literal is passed over on the way to the blocks behind it. -/
theorem reached_literal (text : String) (rest : List Segment) :
    reached (.literal text :: rest) = reached rest := rfl

/-- No block is reached from a malformed one on. -/
theorem reached_block_of_fault {b : Block} {fault : Block × BlockFault}
    (h : faultAt? (.block b) = some fault) (rest : List Segment) :
    reached (.block b :: rest) = [] := by
  simp [reached, h]

/-- A block that is not malformed is reached, and then those behind it. -/
theorem reached_block_of_no_fault {b : Block} (h : faultAt? (.block b) = none)
    (rest : List Segment) : reached (.block b :: rest) = b :: reached rest := by
  simp [reached, h]

/-- The blocks that are reached are among the segments. -/
theorem mem_of_mem_reached {segments : List Segment} {b : Block} (h : b ∈ reached segments) :
    .block b ∈ segments := by
  obtain ⟨segment, hsegment, hblock⟩ := List.mem_filterMap.mp h
  have hmem : segment ∈ segments := (List.takeWhile_prefix _).mem hsegment
  cases segment with
  | literal text => cases hblock
  | block b' =>
    cases hblock
    exact hmem

end Template

namespace Setting

open Template (firstFault? faultAt?)

variable (s : Setting)

/-! ### One block -/

/-- A malformed block fails, and does nothing else. -/
theorem expandBlock_of_error {content : String} {reason : BlockFault}
    (h : BlockKind.ofContent content = .error reason) :
    s.expandBlock content = pure (.error ⟨content, reason⟩) := by
  unfold expandBlock
  rw [h]

/-- A block that names a parameter shows it. -/
theorem expandBlock_of_parameter {content name : String}
    (h : BlockKind.ofContent content = .ok (.parameter name)) :
    s.expandBlock content = Except.ok <$> s.showParameter name := by
  unfold expandBlock
  rw [h]
  rfl

/-- A block that holds a choice makes it from its clauses, resolved against the parameters. -/
theorem expandBlock_of_choice {content reference logic : String}
    (h : BlockKind.ofContent content = .ok (.choice reference logic)) :
    s.expandBlock content =
      Except.ok <$> s.choose content reference (Clause.resolveAll s.params logic) := by
  unfold expandBlock
  rw [h]
  rfl

/-- A block that is not malformed has a text. -/
theorem exists_result_expandBlock {content : String} {kind : BlockKind}
    (h : BlockKind.ofContent content = .ok kind) :
    ∃ out, (s.expandBlock content).result = .ok out := by
  cases kind with
  | parameter name =>
    rw [expandBlock_of_parameter s h]
    exact ⟨_, rfl⟩
  | choice reference logic =>
    rw [expandBlock_of_choice s h]
    exact ⟨_, rfl⟩

/-- A segment fails as it is malformed, and has a text otherwise. -/
theorem expandSegment_of_fault {segment : Segment} {b : Block} {reason : BlockFault}
    (h : faultAt? segment = some (b, reason)) :
    s.expandSegment segment = pure (.error ⟨b.content, reason⟩) := by
  obtain ⟨rfl, hkind⟩ := Template.eq_block_of_faultAt? h
  exact expandBlock_of_error s hkind

/-- A segment that is no malformed block expands to a text. -/
theorem exists_result_expandSegment {segment : Segment} (h : faultAt? segment = none) :
    ∃ out, (s.expandSegment segment).result = .ok out := by
  cases segment with
  | literal text => exact ⟨text, rfl⟩
  | block b =>
    cases hkind : BlockKind.ofContent b.content with
    | ok kind => exact exists_result_expandBlock s hkind
    | error reason =>
      rw [Template.faultAt?_of_error hkind] at h
      cases h

/-! ### All segments -/

/-- Segments expand one after another, up to the first that fails. -/
theorem expandSegments_cons (segment : Segment) (rest : List Segment) :
    s.expandSegments (segment :: rest) = (do
      match ← s.expandSegment segment with
      | .error e => return .error e
      | .ok first =>
        match ← s.expandSegments rest with
        | .error e => return .error e
        | .ok others => return .ok (first ++ others)) := rfl

/-- An expansion of segments that fails at the first one does no more. -/
theorem expandSegments_cons_of_error {segment : Segment} {e : ExpansionError}
    (h : (s.expandSegment segment).result = .error e) (rest : List Segment) :
    (s.expandSegments (segment :: rest)).result = .error e ∧
      (s.expandSegments (segment :: rest)).warnings = (s.expandSegment segment).warnings := by
  rw [expandSegments_cons]
  simp only [Run.result_bind, Run.warnings_bind, h]
  exact ⟨rfl, List.append_nil _⟩

/-- After a text for the first segment, the others decide. -/
theorem expandSegments_cons_of_ok {segment : Segment} {first : String}
    (h : (s.expandSegment segment).result = .ok first) (rest : List Segment) :
    (s.expandSegments (segment :: rest)).result =
        (s.expandSegments rest).result.map (first ++ ·) ∧
      (s.expandSegments (segment :: rest)).warnings =
        (s.expandSegment segment).warnings ++ (s.expandSegments rest).warnings := by
  rw [expandSegments_cons]
  simp only [Run.result_bind, Run.warnings_bind, h]
  cases (s.expandSegments rest).result with
  | error e => exact ⟨rfl, by simp⟩
  | ok others => exact ⟨rfl, by simp⟩

/-- The result of segments is that of the first one, followed by that of the others. -/
theorem result_expandSegments_cons (segment : Segment) (rest : List Segment) :
    (s.expandSegments (segment :: rest)).result =
      (s.expandSegment segment).result.bind fun first =>
        (s.expandSegments rest).result.map (first ++ ·) := by
  cases hfirst : (s.expandSegment segment).result with
  | error e => exact (expandSegments_cons_of_error s hfirst rest).1
  | ok first => exact (expandSegments_cons_of_ok s hfirst rest).1

/-- The expansion fails with the leftmost malformed block. -/
theorem result_expandSegments_of_fault {segments : List Segment} {b : Block}
    {reason : BlockFault} (h : firstFault? segments = some (b, reason)) :
    (s.expandSegments segments).result = .error ⟨b.content, reason⟩ := by
  induction segments with
  | nil => cases h
  | cons segment rest ih =>
    rw [firstFault?, List.findSome?_cons] at h
    cases hfault : faultAt? segment with
    | some fault =>
      rw [hfault] at h
      cases h
      exact (expandSegments_cons_of_error s
        (by rw [expandSegment_of_fault s hfault]; rfl) rest).1
    | none =>
      rw [hfault] at h
      obtain ⟨first, hfirst⟩ := exists_result_expandSegment s hfault
      rw [(expandSegments_cons_of_ok s hfirst rest).1, ih h]
      rfl

/-- Without a malformed block the expansion has a text. -/
theorem exists_result_expandSegments {segments : List Segment}
    (h : firstFault? segments = none) :
    ∃ out, (s.expandSegments segments).result = .ok out := by
  induction segments with
  | nil => exact ⟨"", rfl⟩
  | cons segment rest ih =>
    have hall := List.findSome?_eq_none_iff.mp h
    obtain ⟨first, hfirst⟩ := exists_result_expandSegment s (hall segment List.mem_cons_self)
    obtain ⟨others, hothers⟩ := ih
      (List.findSome?_eq_none_iff.mpr fun x hx => hall x (List.mem_cons_of_mem _ hx))
    rw [(expandSegments_cons_of_ok s hfirst rest).1, hothers]
    exact ⟨first ++ others, rfl⟩

/-- An expansion fails exactly with the leftmost malformed block. -/
theorem result_expandSegments_eq_error_iff {segments : List Segment} {e : ExpansionError} :
    (s.expandSegments segments).result = .error e ↔
      ∃ b, firstFault? segments = some (b, e.reason) ∧ b.content = e.block := by
  constructor
  · intro h
    cases hfault : firstFault? segments with
    | none =>
      obtain ⟨out, hout⟩ := exists_result_expandSegments s hfault
      rw [hout] at h
      cases h
    | some fault =>
      rw [result_expandSegments_of_fault s hfault] at h
      cases h
      exact ⟨fault.1, rfl, rfl⟩
  · rintro ⟨b, hfault, hblock⟩
    rw [result_expandSegments_of_fault s hfault, hblock]

end Setting

end Phrasebook
