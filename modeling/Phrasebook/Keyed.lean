/-!
# Mappings from names

A mapping from strings to values, held as an association list whose keys strictly ascend, so that a
mapping has one representation and its keys come out sorted. A later insertion under a key replaces
the earlier one.
-/

namespace Phrasebook

/-- A finite mapping from strings; its entries ascend by key. -/
structure Keyed (α : Type) where
  entries : List (String × α)
  ascending : entries.Pairwise (fun a b => a.1 < b.1)

namespace Keyed

variable {α : Type}

/-- The mapping with no entry. -/
def empty : Keyed α := ⟨[], .nil⟩

/-- The mapping with no entry is written `∅`. -/
instance : EmptyCollection (Keyed α) := ⟨empty⟩

/-- The mapping with no entry stands for any other. -/
instance : Inhabited (Keyed α) := ⟨empty⟩

/-- The value under a key. -/
def get? (m : Keyed α) (key : String) : Option α :=
  m.entries.lookup key

/-- Whether there is a value under a key. -/
def contains (m : Keyed α) (key : String) : Bool :=
  (m.get? key).isSome

/-- The keys, in ascending order. -/
def keys (m : Keyed α) : List String :=
  m.entries.map Prod.fst

/-- The number of keys. -/
def size (m : Keyed α) : Nat :=
  m.entries.length

/-! ### Insertion -/

/-- Puts a value under a key of an ascending list of entries. -/
def insertEntry (key : String) (value : α) : List (String × α) → List (String × α)
  | [] => [(key, value)]
  | (k, v) :: rest =>
    if key < k then (key, value) :: (k, v) :: rest
    else if key = k then (key, value) :: rest
    else (k, v) :: insertEntry key value rest

/-- The keys after an insertion are the new key and the old ones. -/
theorem mem_insertEntry {key : String} {value : α} {entries : List (String × α)}
    {e : String × α} (h : e ∈ insertEntry key value entries) : e = (key, value) ∨ e ∈ entries := by
  induction entries with
  | nil => simpa [insertEntry] using h
  | cons head rest ih =>
    obtain ⟨k, v⟩ := head
    rw [insertEntry] at h
    split at h
    · simpa using h
    · split at h
      · rcases List.mem_cons.1 h with h | h
        · exact .inl h
        · exact .inr (List.mem_cons_of_mem _ h)
      · rcases List.mem_cons.1 h with h | h
        · exact .inr (h ▸ List.mem_cons_self)
        · exact (ih h).imp_right (List.mem_cons_of_mem _)

/-- Insertion keeps the entries ascending. -/
theorem pairwise_insertEntry (key : String) (value : α) {entries : List (String × α)}
    (h : entries.Pairwise (fun a b => a.1 < b.1)) :
    (insertEntry key value entries).Pairwise (fun a b => a.1 < b.1) := by
  induction entries with
  | nil => simp [insertEntry]
  | cons head rest ih =>
    obtain ⟨k, v⟩ := head
    obtain ⟨hhead, hrest⟩ := List.pairwise_cons.1 h
    rw [insertEntry]
    split
    · next hlt =>
      refine List.pairwise_cons.2 ⟨fun e he => ?_, h⟩
      rcases List.mem_cons.1 he with rfl | he
      · exact hlt
      · exact String.lt_trans hlt (hhead e he)
    · next hnlt =>
      split
      · next heq => exact List.pairwise_cons.2 ⟨fun e he => heq ▸ hhead e he, hrest⟩
      · next hne =>
        refine List.pairwise_cons.2 ⟨fun e he => ?_, ih hrest⟩
        rcases mem_insertEntry he with rfl | he
        · exact String.not_le.1 fun hle =>
            hne (String.le_antisymm hle (String.not_lt.1 hnlt))
        · exact hhead e he

/-- The mapping with `value` under `key`, and otherwise as before. -/
def insert (m : Keyed α) (key : String) (value : α) : Keyed α :=
  ⟨insertEntry key value m.entries, pairwise_insertEntry key value m.ascending⟩

/-- The mapping of a list of pairs; of two pairs with one key the later counts. -/
def ofList (pairs : List (String × α)) : Keyed α :=
  pairs.foldl (fun m p => m.insert p.1 p.2) empty

/-! ### What lookups see -/

/-- A look-up compares the first name, and goes on behind it if it is another one. -/
theorem lookup_cons_eq (k : String) (v : α) (entries : List (String × α)) (name : String) :
    List.lookup name ((k, v) :: entries) = if name = k then some v else entries.lookup name := by
  rw [List.lookup_cons]
  by_cases h : name = k
  · simp [h]
  · rw [show (name == k) = false by simpa using h]
    simp [h]

/-- A look-up after an insertion sees the inserted value under its key, and otherwise what was there
before. -/
theorem lookup_insertEntry (key : String) (value : α) (entries : List (String × α))
    (name : String) :
    (insertEntry key value entries).lookup name =
      if name = key then some value else entries.lookup name := by
  induction entries with
  | nil => exact lookup_cons_eq key value [] name
  | cons head rest ih =>
    obtain ⟨k, v⟩ := head
    rw [insertEntry]
    split
    · exact lookup_cons_eq key value _ name
    · split
      · next heq =>
        subst heq
        simp only [lookup_cons_eq]
        split <;> rfl
      · next hne =>
        simp only [lookup_cons_eq, ih]
        split
        · next hk => rw [if_neg fun e => hne (e.symm.trans hk)]
        · rfl

/-- Nothing is found in the mapping with no entry. -/
@[simp] theorem get?_empty (name : String) : (empty : Keyed α).get? name = none := rfl

/-- A lookup sees the last value put under its key. -/
theorem get?_insert (m : Keyed α) (key : String) (value : α) (name : String) :
    (m.insert key value).get? name = if name = key then some value else m.get? name :=
  lookup_insertEntry key value m.entries name

/-- The keys are the names under which there is a value. -/
theorem mem_keys_iff {m : Keyed α} {name : String} : name ∈ m.keys ↔ (m.get? name).isSome := by
  unfold keys get?
  rw [List.lookup_isSome_iff, List.mem_map]
  constructor
  · rintro ⟨e, he, rfl⟩
    exact ⟨e, he, by simp⟩
  · rintro ⟨e, he, heq⟩
    exact ⟨e, he, (beq_iff_eq.mp heq).symm⟩

/-- The same keys with each value replaced by its image. -/
def map {β : Type} (f : α → β) (m : Keyed α) : Keyed β :=
  ⟨m.entries.map fun e => (e.1, f e.2), List.pairwise_map.2 m.ascending⟩

/-! ### Mappings and their entries -/

/-- Mappings with the same entries are the same. -/
theorem eq_of_entries_eq {m m' : Keyed α} (h : m.entries = m'.entries) : m = m' := by
  obtain ⟨entries, hascending⟩ := m
  obtain ⟨entries', hascending'⟩ := m'
  obtain rfl : entries = entries' := h
  rfl

/-- A value is found under a key exactly if there is an entry of the two. -/
theorem get?_eq_some_iff {m : Keyed α} {key : String} {value : α} :
    m.get? key = some value ↔ (key, value) ∈ m.entries := by
  obtain ⟨entries, hascending⟩ := m
  unfold get?
  induction entries with
  | nil => simp
  | cons head rest ih =>
    obtain ⟨k, v⟩ := head
    obtain ⟨hhead, hrest⟩ := List.pairwise_cons.1 hascending
    have hiff := ih hrest
    rw [lookup_cons_eq]
    split
    · next heq =>
      -- the key stands at the head, so no later entry has it
      have hlater : (key, value) ∉ rest := fun hmem => by
        have hlt := hhead _ hmem
        rw [heq] at hlt
        exact String.lt_irrefl k hlt
      subst heq
      simp [hlater, eq_comm]
    · next hne => simp [hiff, hne]

/-- The entry of a key above all others comes last. -/
theorem insertEntry_of_above {key : String} {value : α} {entries : List (String × α)}
    (h : ∀ e ∈ entries, e.1 < key) : insertEntry key value entries = entries ++ [(key, value)] := by
  induction entries with
  | nil => rfl
  | cons head rest ih =>
    obtain ⟨k, v⟩ := head
    have hlt : k < key := h _ List.mem_cons_self
    have hne : key ≠ k := by
      rintro rfl
      exact String.lt_irrefl _ hlt
    have hrest := ih fun e he => h e (List.mem_cons_of_mem _ he)
    rw [insertEntry, if_neg (String.lt_asymm hlt), if_neg hne, hrest]
    rfl

/-- Entries that ascend from those of a mapping are put behind them. -/
theorem entries_foldl_insert {pairs : List (String × α)} (m : Keyed α)
    (h : (m.entries ++ pairs).Pairwise (fun a b => a.1 < b.1)) :
    (pairs.foldl (fun m p => m.insert p.1 p.2) m).entries = m.entries ++ pairs := by
  induction pairs generalizing m with
  | nil => simp
  | cons first rest ih =>
    have habove : ∀ e ∈ m.entries, e.1 < first.1 := fun e he =>
      (List.pairwise_append.1 h).2.2 e he first List.mem_cons_self
    have hentries : (m.insert first.1 first.2).entries = m.entries ++ [first] :=
      insertEntry_of_above habove
    have hrest := ih (m.insert first.1 first.2) (by rw [hentries]; simpa using h)
    rw [List.foldl_cons, hrest, hentries, List.append_assoc]
    rfl

/-- A mapping is made of its entries. -/
theorem ofList_entries (m : Keyed α) : ofList m.entries = m :=
  eq_of_entries_eq (entries_foldl_insert empty m.ascending)

/-- After several insertions, a lookup sees the last value put under its key, or what was there. -/
theorem get?_foldl_insert (pairs : List (String × α)) (m : Keyed α) (name : String) :
    (pairs.foldl (fun m p => m.insert p.1 p.2) m).get? name =
      (pairs.reverse.lookup name).or (m.get? name) := by
  induction pairs generalizing m with
  | nil => rfl
  | cons first rest ih =>
    rw [List.foldl_cons, ih, get?_insert, List.reverse_cons, List.lookup_append, Option.or_assoc,
      lookup_cons_eq]
    split <;> simp

/-- In a mapping made from pairs the last pair of a key is found. -/
theorem get?_ofList (pairs : List (String × α)) (name : String) :
    (ofList pairs).get? name = pairs.reverse.lookup name := by
  rw [ofList, get?_foldl_insert, get?_empty, Option.or_none]

end Keyed

end Phrasebook
