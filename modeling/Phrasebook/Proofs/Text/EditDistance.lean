import Mathlib.Order.Bounds.Basic
import Mathlib.Order.MinMax
import Phrasebook.Lint

/-!
# The edit distance is the least number of edits

An edit puts a character in, takes one out or replaces one (`Edit`). No sequence of edits from one
text to another is shorter than their edit distance, and one has that length
(`isLeast_editDistance`). The distance is computed row by row over the beginnings of the two texts;
`distance` is the same recursion over their ends, and the two agree on reversed texts
(`editDistance_eq`), which edits do not tell apart (`Edits.reverse`).
-/

namespace Phrasebook.Text

/-! ### Edits -/

/-- One edit of a text. -/
inductive Edit : List Char → List Char → Prop
  | insert (front back : List Char) (c : Char) : Edit (front ++ back) (front ++ c :: back)
  | delete (front back : List Char) (c : Char) : Edit (front ++ c :: back) (front ++ back)
  | replace (front back : List Char) (c d : Char) : Edit (front ++ c :: back) (front ++ d :: back)

/-- A number of edits, one after another. -/
inductive Edits : Nat → List Char → List Char → Prop
  | none (xs : List Char) : Edits 0 xs xs
  | step {n : Nat} {xs ys zs : List Char} : Edit xs ys → Edits n ys zs → Edits (n + 1) xs zs

/-- An edit can be made behind a further character. -/
theorem Edit.cons {xs ys : List Char} (h : Edit xs ys) (x : Char) : Edit (x :: xs) (x :: ys) := by
  cases h with
  | insert front back c => exact .insert (x :: front) back c
  | delete front back c => exact .delete (x :: front) back c
  | replace front back c d => exact .replace (x :: front) back c d

/-- An edit can be made from right to left. -/
theorem Edit.reverse {xs ys : List Char} (h : Edit xs ys) : Edit xs.reverse ys.reverse := by
  cases h with
  | insert front back c => simpa using Edit.insert back.reverse front.reverse c
  | delete front back c => simpa using Edit.delete back.reverse front.reverse c
  | replace front back c d => simpa using Edit.replace back.reverse front.reverse c d

/-- Edits can be made behind a further character. -/
theorem Edits.cons {n : Nat} {xs ys : List Char} (h : Edits n xs ys) (x : Char) :
    Edits n (x :: xs) (x :: ys) := by
  induction h with
  | none xs => exact .none _
  | step hedit _ ih => exact .step (hedit.cons x) ih

/-- Edits can be made from right to left. -/
theorem Edits.reverse {n : Nat} {xs ys : List Char} (h : Edits n xs ys) :
    Edits n xs.reverse ys.reverse := by
  induction h with
  | none xs => exact .none _
  | step hedit _ ih => exact .step hedit.reverse ih

/-- As many edits are needed from right to left as from left to right. -/
theorem edits_reverse_iff {n : Nat} {xs ys : List Char} :
    Edits n xs.reverse ys.reverse ↔ Edits n xs ys := by
  constructor
  · intro h
    simpa using h.reverse
  · exact Edits.reverse

/-! ### The recursion over two texts -/

/-- What replacing a character by another costs. -/
def replaceCost (c d : Char) : Nat :=
  if c = d then 0 else 1

/-- The edit distance of two texts, by their first characters. -/
def distance : List Char → List Char → Nat
  | [], ys => ys.length
  | xs, [] => xs.length
  | x :: xs, y :: ys =>
    min (distance xs ys + replaceCost x y)
      (min (distance xs (y :: ys)) (distance (x :: xs) ys) + 1)
termination_by xs ys => xs.length + ys.length

/-- The empty text is as far from another one as that is long. -/
theorem distance_nil_left (ys : List Char) : distance [] ys = ys.length := by
  rw [distance]

/-- A text is as far from the empty one as it is long. -/
theorem distance_nil_right (xs : List Char) : distance xs [] = xs.length := by
  cases xs <;> simp [distance]

/-- The distance of two texts by that of what is left when one or both of their first characters are
taken off. -/
theorem distance_cons_cons (x y : Char) (xs ys : List Char) :
    distance (x :: xs) (y :: ys) =
      min (distance xs ys + replaceCost x y)
        (min (distance xs (y :: ys)) (distance (x :: xs) ys) + 1) := by
  rw [distance]

/-- Replacing a character costs one edit at most. -/
theorem replaceCost_le_one (c d : Char) : replaceCost c d ≤ 1 := by
  unfold replaceCost
  split <;> omega

/-! ### As many edits suffice -/

namespace Edits

variable {n : Nat} {xs ys : List Char}

/-- A character in front of the first text is deleted by one more edit. -/
theorem delete (h : Edits n xs ys) (x : Char) : Edits (n + 1) (x :: xs) ys :=
  .step (.delete [] xs x) h

/-- A character in front of the second text is inserted by one more edit. -/
theorem insert (h : Edits n xs ys) (y : Char) : Edits (n + 1) xs (y :: ys) :=
  .step (.insert [] xs y) (h.cons y)

/-- Characters in front of both texts are replaced at their cost. -/
theorem replace (h : Edits n xs ys) (x y : Char) :
    Edits (n + replaceCost x y) (x :: xs) (y :: ys) := by
  unfold replaceCost
  split
  · next heq =>
    subst heq
    exact h.cons x
  · exact .step (.replace [] xs x y) (h.cons y)

/-- The empty text becomes another one by inserting its characters. -/
theorem nil_left : ∀ ys : List Char, Edits ys.length [] ys
  | [] => .none []
  | y :: ys => (nil_left ys).insert y

/-- A text becomes the empty one by deleting its characters. -/
theorem nil_right : ∀ xs : List Char, Edits xs.length xs []
  | [] => .none []
  | x :: xs => (nil_right xs).delete x

end Edits

/-- One text becomes the other by as many edits as their distance. -/
theorem edits_distance (xs ys : List Char) : Edits (distance xs ys) xs ys := by
  -- the minimum in the recursion says which edit is made at the first characters
  induction xs, ys using distance.induct with
  | case1 ys =>
    rw [distance_nil_left]
    exact .nil_left ys
  | case2 xs _ =>
    rw [distance_nil_right]
    exact .nil_right xs
  | case3 x xs y ys hreplace hdelete hinsert =>
    rw [distance_cons_cons]
    rcases min_choice (distance xs ys + replaceCost x y)
      (min (distance xs (y :: ys)) (distance (x :: xs) ys) + 1) with h | h
    · rw [h]
      exact hreplace.replace x y
    · rw [h]
      rcases min_choice (distance xs (y :: ys)) (distance (x :: xs) ys) with h | h
      · rw [h]
        exact hdelete.delete x
      · rw [h]
        exact hinsert.insert y

/-! ### No fewer edits suffice -/

/-- A text has no distance to itself. -/
theorem distance_self (xs : List Char) : distance xs xs = 0 := by
  induction xs with
  | nil => exact distance_nil_left []
  | cons x xs ih => simp [distance_cons_cons, ih, replaceCost]

/-- One more character on the right is at most one more edit. -/
theorem distance_cons_right_le (xs : List Char) (z : Char) (zs : List Char) :
    distance xs (z :: zs) ≤ distance xs zs + 1 := by
  cases xs with
  | nil => simp [distance_nil_left]
  | cons x xs =>
    rw [distance_cons_cons]
    omega

/-- One more character on the left is at most one more edit. -/
theorem distance_cons_left_le (x : Char) (xs zs : List Char) :
    distance (x :: xs) zs ≤ distance xs zs + 1 := by
  cases zs with
  | nil => simp [distance_nil_right]
  | cons z zs =>
    rw [distance_cons_cons]
    omega

/-- One character less on the left is at most one more edit. -/
theorem distance_le_cons_left (x : Char) (xs zs : List Char) :
    distance xs zs ≤ distance (x :: xs) zs + 1 := by
  induction zs with
  | nil =>
    rw [distance_nil_right, distance_nil_right, List.length_cons]
    omega
  | cons z zs ih =>
    have hright := distance_cons_right_le xs z zs
    rw [distance_cons_cons]
    omega

/-- Replacing the first character on the left is at most one more edit. -/
theorem distance_replace_le (c d : Char) (xs zs : List Char) :
    distance (c :: xs) zs ≤ distance (d :: xs) zs + 1 := by
  -- on the other text, since only what takes a character off it keeps the two first ones
  induction zs with
  | nil => simp [distance_nil_right]
  | cons z zs ih =>
    have hcost := replaceCost_le_one c z
    rw [distance_cons_cons, distance_cons_cons]
    omega

/-- What holds of two texts whatever they are compared with holds with a character before both. -/
theorem distance_cons_le_of_forall {xs ys : List Char}
    (h : ∀ zs, distance xs zs ≤ distance ys zs + 1) (c : Char) (zs : List Char) :
    distance (c :: xs) zs ≤ distance (c :: ys) zs + 1 := by
  induction zs with
  | nil => simpa [distance_nil_right] using h []
  | cons z zs ih =>
    have hreplace := h zs
    have hdelete := h (z :: zs)
    rw [distance_cons_cons, distance_cons_cons]
    omega

/-- One edit brings a text nearer to any other by one at most. -/
theorem distance_le_of_edit {xs ys : List Char} (h : Edit xs ys) (zs : List Char) :
    distance xs zs ≤ distance ys zs + 1 := by
  have hfront (front : List Char) {back back' : List Char}
      (hback : ∀ zs, distance back zs ≤ distance back' zs + 1) (zs : List Char) :
      distance (front ++ back) zs ≤ distance (front ++ back') zs + 1 := by
    induction front generalizing zs with
    | nil => exact hback zs
    | cons c front ih => exact distance_cons_le_of_forall ih c zs
  cases h with
  | insert front back c => exact hfront front (distance_le_cons_left c back) zs
  | delete front back c => exact hfront front (distance_cons_left_le c back) zs
  | replace front back c d => exact hfront front (distance_replace_le c d back) zs

/-- No fewer edits than their distance turn one text into the other. -/
theorem distance_le_of_edits {n : Nat} {xs ys : List Char} (h : Edits n xs ys) :
    distance xs ys ≤ n := by
  induction h with
  | none xs => exact (distance_self xs).le
  | step hedit _ ih => exact (distance_le_of_edit hedit _).trans (Nat.succ_le_succ ih)

/-! ### Row by row -/

/-- The distances of a text to another one lengthened by more and more characters. Both texts are
kept from right to left. -/
def distancesFrom (w front : List Char) : List Char → List Nat
  | [] => []
  | d :: rest => distance w (d :: front) :: distancesFrom w (d :: front) rest

/-- The distances of a text, kept from right to left, to all beginnings of another one. -/
def distanceRow (w ys : List Char) : List Nat :=
  distance w [] :: distancesFrom w [] ys

/-- The first row holds the distances of the empty text. -/
theorem range_eq_distanceRow (ys : List Char) :
    List.range (ys.length + 1) = distanceRow [] ys := by
  have hfrom (front rest : List Char) :
      distancesFrom [] front rest = List.range' (front.length + 1) rest.length := by
    induction rest generalizing front with
    | nil => rfl
    | cons d rest ih =>
      rw [distancesFrom, ih, distance_nil_left, List.length_cons, List.length_cons,
        List.range'_succ]
  rw [distanceRow, hfrom, distance_nil_left, List.range_eq_range', List.range'_succ]
  rfl

/-- A further character of the first text turns one row into the next. -/
theorem nextEditRow_distanceRow (ys w : List Char) (c : Char) :
    nextEditRow ys (distanceRow w ys) c = distanceRow (c :: w) ys := by
  have hfrom (front rest : List Char) :
      editRow c (distance w front) (distance (c :: w) front)
        (rest.zip (distancesFrom w front rest)) = distancesFrom (c :: w) front rest := by
    induction rest generalizing front with
    | nil => rfl
    | cons d rest ih =>
      have hentry : min (if c = d then distance w front else distance w front + 1)
          (min (distance w (d :: front)) (distance (c :: w) front) + 1) =
            distance (c :: w) (d :: front) := by
        rw [distance_cons_cons, replaceCost]
        split <;> rfl
      rw [distancesFrom, List.zip_cons_cons, editRow, hentry, ih]
      rfl
  have hfirst : distance w [] + 1 = distance (c :: w) [] := by
    rw [distance_nil_right, distance_nil_right, List.length_cons]
  rw [distanceRow, nextEditRow, hfirst, hfrom]
  rfl

/-- The last entry of a row is the distance to the whole of the other text. -/
theorem getLastD_distanceRow (w ys : List Char) (default : Nat) :
    (distanceRow w ys).getLastD default = distance w ys.reverse := by
  have hfrom (front rest : List Char) :
      (distance w front :: distancesFrom w front rest).getLastD default =
        distance w (rest.reverse ++ front) := by
    induction rest generalizing front with
    | nil => rfl
    | cons d rest ih =>
      rw [distancesFrom, List.reverse_cons, List.append_assoc, List.singleton_append, ← ih]
      rfl
  rw [distanceRow, hfrom, List.append_nil]

/-- The rows compute the distance of the reversed texts. -/
theorem editDistance_eq (xs ys : List Char) :
    editDistance xs ys = distance xs.reverse ys.reverse := by
  have hrows (w : List Char) :
      xs.foldl (nextEditRow ys) (distanceRow w ys) = distanceRow (xs.reverse ++ w) ys := by
    induction xs generalizing w with
    | nil => rfl
    | cons c xs ih =>
      rw [List.foldl_cons, nextEditRow_distanceRow, ih, List.reverse_cons, List.append_assoc]
      rfl
  rw [editDistance, range_eq_distanceRow, hrows, List.append_nil, getLastD_distanceRow]

/-- The edit distance is the least number of edits that make one text into the other. -/
theorem isLeast_editDistance (xs ys : List Char) :
    IsLeast {n | Edits n xs ys} (editDistance xs ys) := by
  rw [editDistance_eq]
  refine ⟨edits_reverse_iff.mp (edits_distance xs.reverse ys.reverse), fun n hn => ?_⟩
  exact distance_le_of_edits (edits_reverse_iff.mpr hn)

/-- A text needs no edit to become itself, and no other text needs none. -/
theorem editDistance_eq_zero_iff {xs ys : List Char} : editDistance xs ys = 0 ↔ xs = ys := by
  constructor
  · intro h
    have hnone : Edits 0 xs ys := h ▸ (isLeast_editDistance xs ys).1
    cases hnone
    rfl
  · rintro rfl
    exact Nat.le_zero.mp ((isLeast_editDistance xs xs).2 (.none xs))

end Phrasebook.Text
