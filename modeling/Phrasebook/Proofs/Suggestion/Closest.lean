import Mathlib.Data.List.Basic
import Phrasebook.Lint
import Phrasebook.Proofs.Text.EditDistance
import Phrasebook.Text.Bytes

/-!
# The closest candidates are suggested

The suggestions for a name are the first three of the candidates that are near enough, those at
distance one before those at distance two and equally close ones in their order
(`compute_eq_closest`). So no candidate that is left out for want of room is closer than one that is
not, and a name is not among its own suggestions. How near is near enough is meant to hang on how
many characters the name has (`meant`), but it hangs on how many bytes it has. The suggestions are
the ones that are meant except for names of up to three characters that take more than three bytes:
for these, candidates at distance two fill the room left over (`closest_suggested`). Two accented
letters make such a name (`suggested_beyond_meant`).
-/

namespace Phrasebook.Suggestion

open Text (Edits editDistance isLeast_editDistance editDistance_eq_zero_iff)

/-! ### Sorting by a number -/

section Sorting

variable {α : Type} {f : α → Nat} {l : List α}

/-- In ascending order the elements below a bound come before the others. -/
theorem filter_lt_append_filter_le (h : l.Pairwise fun a b => f a ≤ f b) (bound : Nat) :
    l.filter (f · < bound) ++ l.filter (bound ≤ f ·) = l := by
  induction l with
  | nil => rfl
  | cons a l ih =>
    obtain ⟨hfirst, hrest⟩ := List.pairwise_cons.mp h
    by_cases ha : f a < bound
    · simp [ha, ih hrest, Nat.not_le.mpr ha]
    · have hnone : l.filter (f · < bound) = [] := by
        refine List.filter_eq_nil_iff.mpr fun b hb => ?_
        have hle := hfirst b hb
        simp only [decide_eq_true_eq]
        omega
      have hall := ih hrest
      rw [hnone, List.nil_append] at hall
      simp [ha, hnone, hall, Nat.not_lt.mp ha]

/-- In ascending order the elements with the least number come first, then those with the next one,
and so on. -/
theorem eq_flatMap_filter (h : l.Pairwise fun a b => f a ≤ f b) {low count : Nat}
    (hl : ∀ a ∈ l, low ≤ f a ∧ f a < low + count) :
    l = (List.range' low count).flatMap fun k => l.filter (f · = k) := by
  induction count generalizing low l with
  | zero =>
    refine List.eq_nil_iff_forall_not_mem.mpr fun a ha => ?_
    have hbounds := hl a ha
    omega
  | succ count ih =>
    have hfirst : l.filter (f · < low + 1) = l.filter (f · = low) := by
      refine List.filter_congr fun a ha => ?_
      have hbounds := hl a ha
      simp only [decide_eq_decide]
      omega
    have hbounds : ∀ a ∈ l.filter (low + 1 ≤ f ·), low + 1 ≤ f a ∧ f a < low + 1 + count := by
      intro a ha
      obtain ⟨hmem, hlow⟩ := List.mem_filter.mp ha
      have hbounds := hl a hmem
      simp only [decide_eq_true_eq] at hlow
      omega
    have hlater : l.filter (low + 1 ≤ f ·) =
        (List.range' (low + 1) count).flatMap fun k => l.filter (f · = k) := by
      refine (ih (h.filter _) hbounds).trans (List.flatMap_congr fun k hk => ?_)
      have hk' := List.mem_range'_1.mp hk
      rw [List.filter_filter]
      refine List.filter_congr fun a _ => ?_
      rw [← Bool.decide_and, decide_eq_decide]
      omega
    rw [List.range'_succ, List.flatMap_cons, ← hfirst, ← hlater, filter_lt_append_filter_le h]

variable (f l)

/-- The sort by a number. -/
def sortBy : List α :=
  l.mergeSort fun a b => f a ≤ f b

/-- A sorted list ascends. -/
theorem pairwise_sortBy : (sortBy f l).Pairwise fun a b => f a ≤ f b := by
  have h : (sortBy f l).Pairwise fun a b => decide (f a ≤ f b) = true :=
    List.pairwise_mergeSort (fun a b c => by simpa using Nat.le_trans)
      (fun a b => by simpa using Nat.le_total _ _) l
  exact h.imp fun hle => of_decide_eq_true hle

/-- Sorting keeps the order of the elements with one number. -/
theorem filter_sortBy (k : Nat) : (sortBy f l).filter (f · = k) = l.filter (f · = k) := by
  have hpairwise : (l.filter (f · = k)).Pairwise fun a b => decide (f a ≤ f b) = true := by
    refine List.pairwise_of_forall_mem_list fun a ha b hb => ?_
    have ha' := (List.mem_filter.mp ha).2
    have hb' := (List.mem_filter.mp hb).2
    simp only [decide_eq_true_eq] at ha' hb' ⊢
    omega
  have hsub : (l.filter (f · = k)).Sublist (sortBy f l) :=
    List.sublist_mergeSort (fun a b c => by simpa using Nat.le_trans)
      (fun a b => by simpa using Nat.le_total _ _) hpairwise List.filter_sublist
  have hfilter := hsub.filter (f · = k)
  rw [List.filter_filter] at hfilter
  simp only [Bool.and_self] at hfilter
  have hlength := ((List.mergeSort_perm l fun a b => decide (f a ≤ f b)).filter (f · = k)).length_eq
  exact (hfilter.eq_of_length hlength.symm).symm

/-- Sorted, the elements with the least number come first, then those with the next one, and so on,
each time in the order of the list. -/
theorem sortBy_eq_flatMap_filter {low count : Nat}
    (hl : ∀ a ∈ l, low ≤ f a ∧ f a < low + count) :
    sortBy f l = (List.range' low count).flatMap fun k => l.filter (f · = k) := by
  have hbounds : ∀ a ∈ sortBy f l, low ≤ f a ∧ f a < low + count :=
    fun a ha => hl a (List.mem_mergeSort.mp ha)
  refine (eq_flatMap_filter (pairwise_sortBy f l) hbounds).trans (List.flatMap_congr fun k _ => ?_)
  exact filter_sortBy f l k

end Sorting

/-! ### What is suggested -/

/-- The candidates at the distances from one to `bound`, those at distance one first, and at one
distance in their order. -/
def closest (distance : String → Nat) (bound : Nat) (candidates : List String) : List String :=
  (List.range' 1 bound).flatMap fun k => candidates.filter (distance · = k)

section

variable (name : String) (available : List String)

/-- The distance of a candidate from the name. -/
def distanceTo (candidate : String) : Nat :=
  editDistance name.toList candidate.toList

/-- The candidates that are near enough to be suggested. -/
def near : List String :=
  available.filter fun c => 0 < distanceTo name c && distanceTo name c ≤ reach name

/-- The near names are the available ones that differ from a name, within its reach. -/
theorem mem_near_iff {c : String} :
    c ∈ near name available ↔
      c ∈ available ∧ 0 < distanceTo name c ∧ distanceTo name c ≤ reach name := by
  simp [near]

/-- The suggestions are the first of the near candidates, sorted by their distance. -/
theorem compute_eq_sortBy :
    compute name available = (sortBy (distanceTo name) (near name available)).take limit := by
  let measured := (available.map fun c => (distanceTo name c, c)).filter
    fun m => 0 < m.1 && m.1 ≤ reach name
  have hnear : measured.map Prod.snd = near name available := by
    simp only [measured, List.filter_map, List.map_map]
    exact List.map_id _
  have hmeasured : ∀ m ∈ measured, m.1 = distanceTo name m.2 := by
    intro m hm
    obtain ⟨c, -, rfl⟩ := List.mem_map.mp (List.mem_filter.mp hm).1
    rfl
  have hsort : (measured.mergeSort fun a b => a.1 ≤ b.1).map Prod.snd =
      sortBy (distanceTo name) (near name available) := by
    rw [← hnear, sortBy]
    refine List.map_mergeSort fun a ha b hb => ?_
    rw [hmeasured a ha, hmeasured b hb]
  rw [← hsort, ← List.map_take]
  rfl

/-- The suggestions are the first of the candidates at the distances within reach, those at distance
one first. -/
theorem compute_eq_closest :
    compute name available = (closest (distanceTo name) (reach name) available).take limit := by
  have hbounds : ∀ c ∈ near name available,
      1 ≤ distanceTo name c ∧ distanceTo name c < 1 + reach name := by
    intro c hc
    obtain ⟨-, hpositive, hreach⟩ := (mem_near_iff name available).mp hc
    omega
  have hbuckets : (List.range' 1 (reach name)).flatMap
        (fun k => (near name available).filter (distanceTo name · = k)) =
      closest (distanceTo name) (reach name) available := by
    refine List.flatMap_congr fun k hk => ?_
    have hk' := List.mem_range'_1.mp hk
    rw [near, List.filter_filter]
    refine List.filter_congr fun c _ => ?_
    rw [← Bool.decide_and, ← Bool.decide_and, decide_eq_decide]
    omega
  rw [compute_eq_sortBy, sortBy_eq_flatMap_filter _ _ hbounds, hbuckets]

/-- The near candidates are the suggestions and others that are no closer. -/
theorem exists_omitted :
    ∃ omitted, (near name available).Perm (compute name available ++ omitted) ∧
      ∀ found ∈ compute name available, ∀ c ∈ omitted,
        distanceTo name found ≤ distanceTo name c := by
  have hsorted := pairwise_sortBy (distanceTo name) (near name available)
  refine ⟨(sortBy (distanceTo name) (near name available)).drop limit, ?_, ?_⟩
  · rw [compute_eq_sortBy, List.take_append_drop]
    exact (List.mergeSort_perm _ _).symm
  · rw [← List.take_append_drop limit (sortBy _ _), List.pairwise_append] at hsorted
    rw [compute_eq_sortBy]
    exact hsorted.2.2

/-- A name is not among its own suggestions. -/
theorem self_not_mem_compute : name ∉ compute name available := by
  intro h
  rw [compute_eq_sortBy] at h
  have hnear : name ∈ near name available := List.mem_mergeSort.mp (List.mem_of_mem_take h)
  obtain ⟨-, hpositive, -⟩ := (mem_near_iff name available).mp hnear
  have hzero : distanceTo name name = 0 := editDistance_eq_zero_iff.mpr rfl
  omega

end

/-! ### What is meant to be suggested -/

/-- How far a suggestion is meant to be from a name: names of at most three characters allow one
edit, longer ones two. -/
def meantReach (name : String) : Nat :=
  if name.length ≤ 3 then 1 else 2

/-- The suggestions that are meant for a name. -/
def meant (name : String) (available : List String) : List String :=
  (closest (distanceTo name) (meantReach name) available).take limit

/-- A text has no more characters than bytes. -/
theorem length_le_utf8ByteSize (s : String) : s.length ≤ s.utf8ByteSize := by
  have hsize (cs : List Char) : cs.length ≤ Text.byteSize cs := by
    induction cs with
    | nil => exact Nat.le_refl 0
    | cons c cs ih =>
      have hc := c.utf8Size_pos
      rw [List.length_cons, Text.byteSize_cons]
      omega
  have h := hsize s.toList
  rwa [String.length_toList, ← Text.utf8ByteSize_ofList, String.ofList_toList] at h

/-- Within a distance of one, the closest candidates are those at that distance. -/
theorem closest_one (distance : String → Nat) (candidates : List String) :
    closest distance 1 candidates = candidates.filter (distance · = 1) := by
  simp [closest]

/-- Within a distance of two, the candidates at one come before those at two. -/
theorem closest_two (distance : String → Nat) (candidates : List String) :
    closest distance 2 candidates =
      candidates.filter (distance · = 1) ++ candidates.filter (distance · = 2) := by
  simp [closest, List.range'_succ]

/-- The first elements of two joined lists are those of the first list just when there is no second
list or no room for it. -/
theorem take_append_eq_take_iff {α : Type} {first second : List α} {n : Nat} :
    (first ++ second).take n = first.take n ↔ second = [] ∨ n ≤ first.length := by
  constructor
  · intro h
    have hlength := congrArg List.length h
    rw [List.length_take, List.length_take, List.length_append] at hlength
    rw [← List.length_eq_zero_iff]
    omega
  · rintro (rfl | hlong)
    · rw [List.append_nil]
    · exact List.take_append_of_le_length hlong

/-- The reach is the one that is meant, and one more for a name of up to three characters that take
more than three bytes. -/
theorem reach_eq (name : String) :
    reach name =
      if name.length ≤ 3 ∧ 3 < name.utf8ByteSize then meantReach name + 1 else meantReach name := by
  have hsize := length_le_utf8ByteSize name
  unfold reach meantReach
  split <;> split <;> split <;> omega

/-- The suggestions for a name are the first three of the candidates at distance one and then at
distance two, as far as the name reaches, where the distance is the least number of characters to
put in, take out or replace. What is left out is no closer than what is suggested, and the name
itself is not suggested. The suggestions are the ones that are meant just when the name has more
than three characters or at most three bytes, or no candidate is at distance two, or the candidates
at distance one leave no room for it. -/
theorem closest_suggested (name : String) (available : List String) :
    let found := compute name available
    (∀ c, IsLeast {n | Edits n name.toList c.toList} (distanceTo name c)) ∧
    found = (closest (distanceTo name) (reach name) available).take limit ∧
    (∃ omitted, (near name available).Perm (found ++ omitted) ∧
      ∀ c ∈ found, ∀ d ∈ omitted, distanceTo name c ≤ distanceTo name d) ∧
    name ∉ found ∧
    (found = meant name available ↔
      3 < name.length ∨ name.utf8ByteSize ≤ 3 ∨ (∀ c ∈ available, distanceTo name c ≠ 2) ∨
        limit ≤ (available.filter (distanceTo name · = 1)).length) := by
  intro found
  have hfound : found = (closest (distanceTo name) (reach name) available).take limit :=
    compute_eq_closest name available
  refine ⟨fun c => isLeast_editDistance _ _, hfound, exists_omitted name available,
    self_not_mem_compute name available, ?_⟩
  rw [hfound, meant, reach_eq]
  by_cases hbytes : name.length ≤ 3 ∧ 3 < name.utf8ByteSize
  · obtain ⟨hshort, hlong⟩ := hbytes
    have hmeant : meantReach name = 1 := if_pos hshort
    have hnone : available.filter (distanceTo name · = 2) = [] ↔
        ∀ c ∈ available, distanceTo name c ≠ 2 := by
      simp [List.filter_eq_nil_iff]
    rw [if_pos ⟨hshort, hlong⟩, hmeant, closest_one, closest_two, take_append_eq_take_iff, hnone]
    simp [Nat.not_lt.mpr hshort, Nat.not_le.mpr hlong]
  · rw [if_neg hbytes]
    have hsame : 3 < name.length ∨ name.utf8ByteSize ≤ 3 := by omega
    simp only [true_iff]
    exact or_assoc.mp (Or.inl hsame)

/-- Two accented letters are four bytes, so a candidate that has nothing in common with them is
suggested, though it takes two edits. -/
theorem suggested_beyond_meant :
    compute "éé" ["xx"] = ["xx"] ∧ meant "éé" ["xx"] = [] ∧ "éé".length = 2 ∧
      distanceTo "éé" "xx" = 2 := by
  decide +kernel

end Phrasebook.Suggestion
