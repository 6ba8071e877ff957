import Phrasebook.Proofs.Clause.Separate

/-!
# Fields with unknown keys

A clause may hold fields that mean nothing to the reader. It passes over such a field up to the first
colon in it. What follows the colon is a piece of its own, and if it holds no equals sign it is put
after the last field that was read, which is the one before the unknown field and not the unknown
field itself. These pieces are the strays of the unknown field (`strays`). A clause with an unknown
field is read like the clause without it whose field before has the strays at its end, whatever the
contents are (`parse_withUnknown`). So the unknown field leaves no trace if it has no strays, and
changes the modifier or the operand if it has any (`unknown_field_read`).
-/

namespace Phrasebook

namespace Clause

open Text (trim trimStart trimEnd isBlank)
open Written (LooksLikeField looksLikeField_iff)

/-! ### What is written -/

/-- The pieces of a content after its first colon. -/
def laterPieces (content : List Char) : List (List Char) :=
  (content.splitOn fieldSeparator).tail

/-- The pieces of a content after its first colon that hold no equals sign. -/
def strayPieces (content : List Char) : List (List Char) :=
  (laterPieces content).filter ('=' ∉ ·)

/-- The stray pieces of a content, each with its colon. -/
def strays (content : List Char) : List Char :=
  (strayPieces content).flatMap (fieldSeparator :: ·)

/-- A key that no field has. -/
structure UnknownKey (key : List Char) : Prop where
  no_equals : '=' ∉ key
  no_fieldSeparator : fieldSeparator ∉ key
  no_separator : separator ∉ key
  unknown : String.ofList (trim key) ∉ ["mod", "modi", "val", "text"]

/-- A field that means nothing to the reader, and whose content holds no field that does. -/
structure UnknownField (key content : String) : Prop where
  unknown_key : UnknownKey key.toList
  no_separator : separator ∉ content.toList
  no_field : ∀ piece ∈ laterPieces content.toList, ¬ LooksLikeField piece

/-- A field as its author writes it. -/
def fieldText (content : Field → String) (field : Field) : String :=
  field.key ++ "=" ++ content field

/-- A clause as its author writes it, its fields in the given order. -/
def clauseText (content : Field → String) (order : List Field) : String :=
  String.intercalate ":" (order.map (fieldText content))

/-- Written clauses are such texts. -/
example (c : Written) : clauseText c.content c.order = c.render := rfl

/-- A clause that has a further field between those of its fields that come earlier and those that
come later. -/
def clauseTextWith (content : Field → String) (earlier later : List Field) (further : String) :
    String :=
  String.intercalate ":"
    (earlier.map (fieldText content) ++ further :: later.map (fieldText content))

/-- What may stand before a clause in logic: nothing, the mark, or other clauses. -/
def Opens (opening : String) : Prop :=
  opening = "" ∨ opening = "modi=" ∨ ∃ clauses, opening = clauses ++ ";"

/-- What may stand after a clause in logic: nothing, or other clauses. -/
def Closes (closing : String) : Prop :=
  closing = "" ∨ ∃ clauses, closing = ";" ++ clauses

/-! ### Pieces -/

/-- A stray piece is a later piece of the content, and holds no equals sign. -/
theorem mem_laterPieces_of_mem_strayPieces {content piece : List Char}
    (h : piece ∈ strayPieces content) : piece ∈ laterPieces content ∧ '=' ∉ piece := by
  simpa [strayPieces] using h

/-- Nothing strays just when each later piece holds an equals sign. -/
theorem strays_eq_nil_iff {content : List Char} :
    strays content = [] ↔ ∀ piece ∈ laterPieces content, '=' ∈ piece := by
  simp [strays, strayPieces, List.flatMap_eq_nil_iff]

/-- What strays begins with a colon, if there is anything. -/
theorem exists_strays_eq_cons {content : List Char} (h : strays content ≠ []) :
    ∃ rest, strays content = fieldSeparator :: rest := by
  cases hpieces : strayPieces content with
  | nil => exact absurd (by rw [strays, hpieces, List.flatMap_nil]) h
  | cons piece pieces => exact ⟨_, by rw [strays, hpieces, List.flatMap_cons, List.cons_append]⟩

/-- The strays of a content are a part of it. -/
theorem strays_subset (content : List Char) : strays content ⊆ content := by
  intro c hc
  obtain ⟨piece, hpiece, hc⟩ := List.mem_flatMap.mp hc
  have hlater := (mem_laterPieces_of_mem_strayPieces hpiece).1
  cases hsplit : content.splitOn fieldSeparator with
  | nil => exact absurd hsplit (List.splitOn_ne_nil _ _)
  | cons first pieces =>
    have hjoin : first ++ pieces.flatMap (fieldSeparator :: ·) = content := by
      rw [← Text.intercalate_cons, ← hsplit, List.intercalate_splitOn]
    rw [laterPieces, hsplit, List.tail_cons] at hlater
    rw [← hjoin]
    exact List.mem_append_right _ (List.mem_flatMap.mpr ⟨piece, hlater, hc⟩)

/-- No piece holds the separator of fields. -/
theorem fieldSeparator_not_mem_laterPieces {content piece : List Char}
    (h : piece ∈ laterPieces content) : fieldSeparator ∉ piece :=
  Text.not_mem_of_mem_splitOn (List.mem_of_mem_tail h)

/-- An assignment splits into its key with the first piece of its content, and the later pieces. -/
theorem exists_splitOn_assignment {key : List Char} (hkey : fieldSeparator ∉ key)
    (content : List Char) : ∃ first,
      (key ++ '=' :: content).splitOn fieldSeparator =
        (key ++ '=' :: first) :: laterPieces content := by
  cases hsplit : content.splitOn fieldSeparator with
  | nil => exact absurd hsplit (List.splitOn_ne_nil _ _)
  | cons first pieces =>
    have hmark : fieldSeparator ∉ key ++ ['='] := by
      simpa [hkey] using (show fieldSeparator ≠ '=' by decide)
    refine ⟨first, ?_⟩
    rw [List.append_cons, Text.splitOn_append_of_not_mem hmark hsplit, laterPieces, hsplit]
    simp

/-- A piece with an unknown key before its first equals sign is no field. -/
theorem UnknownKey.not_looksLikeField {key : List Char} (h : UnknownKey key)
    (content : List Char) : ¬ LooksLikeField (key ++ '=' :: content) := by
  rw [looksLikeField_iff, Field.assigned?, Text.cutAt?_append_cons h.no_equals, Option.bind_some,
    Option.isSome_map]
  exact mt Written.isSome_ofKey?_iff.mp h.unknown

/-- A piece without an equals sign is no field. -/
theorem not_looksLikeField_of_not_mem {piece : List Char} (h : '=' ∉ piece) :
    ¬ LooksLikeField piece := by
  rw [looksLikeField_iff, Written.assigned?_eq_none_of_not_mem h]
  exact Bool.false_ne_true

/-! ### Reading pieces -/

/-- Pieces that are no fields belong to the last field that was read: all of them if it is the
output text, and otherwise those without an equals sign. -/
theorem foldl_addPiece_of_noField {pieces : List (List Char)}
    (h : ∀ piece ∈ pieces, ¬ LooksLikeField piece) (field : Field) (content : List Char)
    (base : List (Field × List Char)) :
    pieces.foldl addPiece ((field, content) :: base) =
      (field, content ++
        (pieces.filter fun piece => field = .text ∨ '=' ∉ piece).flatMap (fieldSeparator :: ·)) ::
        base := by
  induction pieces generalizing content with
  | nil => simp
  | cons piece pieces ih =>
    have hnone : Field.assigned? piece = none :=
      Option.not_isSome_iff_eq_none.mp (mt looksLikeField_iff.mpr (h piece List.mem_cons_self))
    have hrest := ih fun p hp => h p (List.mem_cons_of_mem _ hp)
    by_cases hkept : field = .text ∨ '=' ∉ piece
    · have hadd : addPiece ((field, content) :: base) piece =
          (field, content ++ fieldSeparator :: piece) :: base := by
        simp only [addPiece, hnone, if_pos hkept]
      rw [List.foldl_cons, hadd, hrest, List.filter_cons_of_pos (by simpa using hkept)]
      simp
    · have hadd : addPiece ((field, content) :: base) piece = (field, content) :: base := by
        simp only [addPiece, hnone, if_neg hkept]
      rw [List.foldl_cons, hadd, hrest, List.filter_cons_of_neg (by simpa using hkept)]

/-- A piece changes at most the last field that was read. -/
theorem addPiece_append {fields : List (Field × List Char)} (h : fields ≠ []) (piece : List Char)
    (base : List (Field × List Char)) :
    addPiece (fields ++ base) piece = addPiece fields piece ++ base ∧
      addPiece fields piece ≠ [] := by
  obtain ⟨⟨field, content⟩, earlier, rfl⟩ := List.exists_cons_of_ne_nil h
  unfold addPiece
  cases Field.assigned? piece with
  | some assigned => exact ⟨rfl, List.cons_ne_nil _ _⟩
  | none =>
    simp only [List.cons_append]
    split
    · exact ⟨rfl, List.cons_ne_nil _ _⟩
    · exact ⟨rfl, List.cons_ne_nil _ _⟩

/-- Reading pieces changes the last of the fields before them at most: fields that come earlier
stay, and there is still a last one. -/
theorem foldl_addPiece_append {fields : List (Field × List Char)} (h : fields ≠ [])
    (pieces : List (List Char)) (base : List (Field × List Char)) :
    pieces.foldl addPiece (fields ++ base) = pieces.foldl addPiece fields ++ base ∧
      pieces.foldl addPiece fields ≠ [] := by
  induction pieces generalizing fields with
  | nil => exact ⟨rfl, h⟩
  | cons piece pieces ih =>
    obtain ⟨happend, hne⟩ := addPiece_append h piece base
    rw [List.foldl_cons, List.foldl_cons, happend]
    exact ih hne

/-! ### Reading written fields -/

variable {content : Field → String}

/-- What a written field is read as by itself. -/
def readField (content : Field → String) (field : Field) : List (Field × List Char) :=
  ((fieldText content field).toList.splitOn fieldSeparator).foldl addPiece []

/-- The characters of texts joined with colons are their characters joined with the separator of
fields. -/
theorem toList_intercalate_colon (parts : List String) :
    (String.intercalate ":" parts).toList =
      [fieldSeparator].intercalate (parts.map String.toList) := by
  rw [String.toList_intercalate]
  rfl

/-- The characters of a written field: its key, the equals sign, and its content. -/
theorem toList_fieldText (field : Field) :
    (fieldText content field).toList = field.key.toList ++ '=' :: (content field).toList := by
  simp [fieldText]

/-- A written field is recorded first, and its later pieces are read after that. -/
theorem exists_first_readField (content : Field → String) (field : Field) :
    ∃ first, ∀ base, ((fieldText content field).toList.splitOn fieldSeparator).foldl addPiece base =
      (laterPieces (content field).toList).foldl addPiece ((field, first) :: base) := by
  have hkey : fieldSeparator ∉ field.key.toList := by cases field <;> decide
  obtain ⟨first, hsplit⟩ := exists_splitOn_assignment hkey (content field).toList
  refine ⟨first, fun base => ?_⟩
  have hadd : addPiece base (field.key.toList ++ '=' :: first) = (field, first) :: base := by
    simp only [addPiece, Written.assigned?_key]
  rw [toList_fieldText, hsplit, List.foldl_cons, hadd]

/-- Reading a written field leaves what was read before as it is. -/
theorem foldl_addPiece_fieldText (field : Field) (base : List (Field × List Char)) :
    ((fieldText content field).toList.splitOn fieldSeparator).foldl addPiece base =
      readField content field ++ base := by
  obtain ⟨first, hread⟩ := exists_first_readField content field
  rw [readField, hread, hread]
  exact (foldl_addPiece_append (List.cons_ne_nil (field, first) []) _ base).1

/-- Reading a written field leaves at least one field. -/
theorem readField_ne_nil (content : Field → String) (field : Field) :
    readField content field ≠ [] := by
  obtain ⟨first, hread⟩ := exists_first_readField content field
  rw [readField, hread]
  exact (foldl_addPiece_append (List.cons_ne_nil (field, first) []) _ []).2

/-- The fields of a clause are read one after another, the last one standing first. -/
theorem foldl_addPiece_fieldTexts (order : List Field) (base : List (Field × List Char)) :
    ((order.map fun field => (fieldText content field).toList).flatMap
        (List.splitOn fieldSeparator)).foldl addPiece base =
      order.reverse.flatMap (readField content) ++ base := by
  induction order generalizing base with
  | nil => rfl
  | cons field order ih =>
    rw [List.map_cons, List.flatMap_cons, List.foldl_append, foldl_addPiece_fieldText, ih,
      List.reverse_cons, List.flatMap_append, List.flatMap_singleton, List.append_assoc]

/-- A written clause is read field by field, the last one first. -/
theorem fields_clauseText {order : List Field} (h : order ≠ []) :
    fields (clauseText content order).toList = order.reverse.flatMap (readField content) := by
  have hne : (order.map fun field => (fieldText content field).toList) ≠ [] := by simpa using h
  have htext : (clauseText content order).toList =
      [fieldSeparator].intercalate (order.map fun field => (fieldText content field).toList) := by
    rw [clauseText, toList_intercalate_colon, List.map_map]
    rfl
  rw [fields, htext, Text.splitOn_intercalate_eq_flatMap _ hne, foldl_addPiece_fieldTexts,
    List.append_nil]

/-- What is read of a written clause, around one of its fields. -/
theorem fields_clauseText_append_cons (content : Field → String) (earlier later : List Field)
    (field : Field) :
    fields (clauseText content (earlier ++ field :: later)).toList =
      later.reverse.flatMap (readField content) ++
        (readField content field ++ earlier.reverse.flatMap (readField content)) := by
  rw [fields_clauseText (by simp), List.reverse_append, List.reverse_cons, List.append_assoc,
    List.flatMap_append, List.flatMap_append, List.flatMap_singleton]

/-- A written clause with a further text among its fields: the pieces of that text are read after
the fields before it. -/
theorem fields_clauseTextWith (earlier later : List Field) (further : String) :
    fields (clauseTextWith content earlier later further).toList =
      later.reverse.flatMap (readField content) ++
        (further.toList.splitOn fieldSeparator).foldl addPiece
          (earlier.reverse.flatMap (readField content)) := by
  have htext : (clauseTextWith content earlier later further).toList =
      [fieldSeparator].intercalate ((earlier.map fun field => (fieldText content field).toList) ++
        further.toList :: later.map fun field => (fieldText content field).toList) := by
    rw [clauseTextWith, toList_intercalate_colon, List.map_append, List.map_cons, List.map_map,
      List.map_map]
    rfl
  have hne : (earlier.map fun field => (fieldText content field).toList) ++
      further.toList :: (later.map fun field => (fieldText content field).toList) ≠ [] := by simp
  rw [fields, htext, Text.splitOn_intercalate_eq_flatMap _ hne, List.flatMap_append,
    List.flatMap_cons, List.foldl_append, List.foldl_append, foldl_addPiece_fieldTexts,
    foldl_addPiece_fieldTexts, List.append_nil]

/-! ### An unknown field -/

/-- What is read of a field that has the strays of a content at its end. -/
theorem readField_update_self (field : Field) (w : List Char) :
    readField (Function.update content field (content field ++ String.ofList (strays w))) field =
      (strayPieces w).foldl addPiece (readField content field) := by
  have hstray : ∀ piece ∈ strayPieces w, fieldSeparator ∉ piece := fun piece hpiece =>
    fieldSeparator_not_mem_laterPieces (mem_laterPieces_of_mem_strayPieces hpiece).1
  have htext : (fieldText (Function.update content field
      (content field ++ String.ofList (strays w))) field).toList =
      (fieldText content field).toList ++ (strayPieces w).flatMap (fieldSeparator :: ·) := by
    rw [toList_fieldText, toList_fieldText, Function.update_self, String.toList_append,
      String.toList_ofList, strays]
    simp
  rw [readField, readField, htext, Text.splitOn_append_flatMap hstray, List.foldl_append]

/-- Changing the content of one field does not change how others are read. -/
theorem flatMap_readField_update (content : Field → String) {order : List Field} {field : Field}
    (h : field ∉ order) (x : String) :
    order.flatMap (readField (Function.update content field x)) =
      order.flatMap (readField content) := by
  refine List.flatMap_congr fun g hg => ?_
  have hne : g ≠ field := fun heq => h (heq ▸ hg)
  rw [readField, readField, fieldText, fieldText, Function.update_of_ne hne]

/-- What is read of a clause one of whose fields has the strays of a content at its end. -/
theorem fields_clauseText_update {earlier later : List Field} {field : Field}
    (hearlier : field ∉ earlier) (hlater : field ∉ later) (w : List Char) :
    fields (clauseText
        (Function.update content field (content field ++ String.ofList (strays w)))
        (earlier ++ field :: later)).toList =
      later.reverse.flatMap (readField content) ++
        ((strayPieces w).foldl addPiece (readField content field) ++
          earlier.reverse.flatMap (readField content)) := by
  rw [fields_clauseText_append_cons, readField_update_self,
    flatMap_readField_update content (mt List.mem_reverse.mp hlater),
    flatMap_readField_update content (mt List.mem_reverse.mp hearlier)]

/-- The strays of a content are put after the last field that was read. -/
theorem foldl_addPiece_strayPieces (w : List Char) (field : Field) (x : List Char)
    (base : List (Field × List Char)) :
    (strayPieces w).foldl addPiece ((field, x) :: base) = (field, x ++ strays w) :: base := by
  have hall : (strayPieces w).filter (fun piece => field = .text ∨ '=' ∉ piece) =
      strayPieces w := by
    rw [List.filter_eq_self]
    intro piece hpiece
    simp [(mem_laterPieces_of_mem_strayPieces hpiece).2]
  rw [foldl_addPiece_of_noField fun piece hpiece =>
    not_looksLikeField_of_not_mem (mem_laterPieces_of_mem_strayPieces hpiece).2, hall, strays]

/-- An unknown field puts something after the last field that was read, and that is its strays unless
the last field is the output text. -/
theorem exists_foldl_addPiece_unknown {key w : List Char} (hkey : UnknownKey key)
    (hw : ∀ piece ∈ laterPieces w, ¬ LooksLikeField piece) (field : Field) (x : List Char)
    (base : List (Field × List Char)) :
    ∃ y, ((key ++ '=' :: w).splitOn fieldSeparator).foldl addPiece ((field, x) :: base) =
        (field, y) :: base ∧ (field ≠ .text → y = x ++ strays w) := by
  obtain ⟨first, hsplit⟩ := exists_splitOn_assignment hkey.no_fieldSeparator w
  have hnone : ∀ piece ∈ (key ++ '=' :: first) :: laterPieces w, ¬ LooksLikeField piece := by
    intro piece hpiece
    rcases List.mem_cons.mp hpiece with rfl | hpiece
    · exact hkey.not_looksLikeField first
    · exact hw piece hpiece
  refine ⟨_, by rw [hsplit, foldl_addPiece_of_noField hnone], fun hfield => ?_⟩
  rw [List.filter_cons_of_neg (by simp [hfield])]
  simp [strays, strayPieces, hfield]

/-- A field that is read stays read, whatever pieces follow. -/
theorem keys_subset_foldl_addPiece (fields : List (Field × List Char))
    (pieces : List (List Char)) :
    fields.map Prod.fst ⊆ (pieces.foldl addPiece fields).map Prod.fst := by
  induction pieces generalizing fields with
  | nil => exact List.Subset.refl _
  | cons piece pieces ih =>
    have hpiece : fields.map Prod.fst ⊆ (addPiece fields piece).map Prod.fst := by
      unfold addPiece
      cases Field.assigned? piece with
      | some assigned => exact List.subset_cons_self _ _
      | none =>
        cases fields with
        | nil => exact List.Subset.refl _
        | cons last earlier =>
          simp only
          split <;> exact List.Subset.refl _
    exact List.Subset.trans hpiece (ih _)

/-- A written field is among those that are read. -/
theorem isSome_lookup_readField {order : List Field} {field : Field} (h : field ∈ order) :
    ((order.flatMap (readField content)).lookup field).isSome = true := by
  obtain ⟨first, hread⟩ := exists_first_readField content field
  have hkey : field ∈ (readField content field).map Prod.fst := by
    rw [readField, hread]
    exact keys_subset_foldl_addPiece _ _ List.mem_cons_self
  obtain ⟨read, hmem, rfl⟩ := List.mem_map.mp hkey
  exact List.lookup_isSome_iff.mpr ⟨read, List.mem_flatMap.mpr ⟨read.1, h, hmem⟩, by simp⟩

/-- An output text before another one does not count. -/
theorem ofFields_append_text {fields : List (Field × List Char)}
    (h : (fields.lookup .text).isSome = true) (x y : List Char)
    (base : List (Field × List Char)) :
    Draft.ofFields (fields ++ (.text, x) :: base) =
      Draft.ofFields (fields ++ (.text, y) :: base) := by
  obtain ⟨text, htext⟩ := Option.isSome_iff_exists.mp h
  have hmodifier : (Field.modifier == Field.text) = false := rfl
  have hvalue : (Field.value == Field.text) = false := rfl
  simp [Draft.ofFields, List.lookup_append, htext, List.lookup_cons, hmodifier, hvalue]

/-- A clause with an unknown field before its text is read as the clause without it whose field
before has the strays of the unknown one at its end. -/
theorem parse_withUnknown {earlier later : List Field} {field : Field} {key w : String}
    (hearlier : field ∉ earlier) (hlater : field ∉ later) (htext : .text ∈ later)
    (hkey : UnknownKey key.toList)
    (hw : ∀ piece ∈ laterPieces w.toList, ¬ LooksLikeField piece) :
    Draft.parse (clauseTextWith content (earlier ++ [field]) later (key ++ "=" ++ w)).toList =
      Draft.parse (clauseText
        (Function.update content field (content field ++ String.ofList (strays w.toList)))
        (earlier ++ field :: later)).toList := by
  have hfurther : (key ++ "=" ++ w).toList = key.toList ++ '=' :: w.toList := by simp
  obtain ⟨⟨last, x⟩, others, hread⟩ :=
    List.exists_cons_of_ne_nil (readField_ne_nil content field)
  obtain ⟨y, hunknown, hy⟩ := exists_foldl_addPiece_unknown hkey hw last x
    (others ++ earlier.reverse.flatMap (readField content))
  rw [Draft.parse, Draft.parse, fields_clauseTextWith, hfurther,
    fields_clauseText_update hearlier hlater, List.reverse_append, List.reverse_singleton,
    List.singleton_append, List.flatMap_cons, hread, List.cons_append, hunknown,
    foldl_addPiece_strayPieces, List.cons_append]
  by_cases hlast : last = .text
  · subst hlast
    exact ofFields_append_text (isSome_lookup_readField (List.mem_reverse.mpr htext)) _ _ _
  · rw [hy hlast]

/-! ### What the strays change -/

/-- The separator of fields is not blank, so no trimming removes it. -/
theorem isBlank_fieldSeparator : isBlank fieldSeparator = false := by decide

/-- A modifier differs from one with a colon and more after it. -/
theorem trim_append_fieldSeparator_ne (xs ys : List Char) :
    trim (xs ++ fieldSeparator :: ys) ≠ trim xs := by
  intro heq
  have hlength := congrArg List.length heq
  have hle : (trim xs).length ≤ (trimStart xs).length := by
    simpa [trim, trimEnd] using
      (List.dropWhile_sublist isBlank (l := (trimStart xs).reverse)).length_le
  rw [Text.trim_append_cons isBlank_fieldSeparator, List.length_append, List.length_cons] at hlength
  omega

/-- An operand differs from one with a colon and more after it, which is no mention. -/
theorem operandOf_append_fieldSeparator_ne (xs ys : List Char) :
    operandOf (xs ++ fieldSeparator :: ys) ≠ operandOf xs := by
  have hnone : Token.lone? (trim (xs ++ fieldSeparator :: ys)) = none := by
    rw [Option.eq_none_iff_forall_ne_some]
    intro name hname
    obtain ⟨htrim, hword⟩ := Token.lone?_eq_some_iff.mp hname
    have hmem : fieldSeparator ∈ trim (xs ++ fieldSeparator :: ys) :=
      Text.mem_trim_of_not_blank isBlank_fieldSeparator (by simp)
    rw [htrim] at hmem
    rcases List.mem_cons.mp hmem with heq | hmem
    · exact absurd heq (by decide)
    · exact absurd (hword.2 _ hmem) (by decide)
  simp only [operandOf, hnone]
  split <;> simp

/-- A content that holds no field is read as one. -/
theorem exists_readField_eq {field : Field}
    (h : ∀ piece ∈ laterPieces (content field).toList, ¬ LooksLikeField piece) :
    ∃ x, readField content field = [(field, x)] := by
  obtain ⟨first, hread⟩ := exists_first_readField content field
  exact ⟨_, by rw [readField, hread, foldl_addPiece_of_noField h]⟩

/-- A field that is not written is not read. -/
theorem lookup_readField_eq_none
    (h : ∀ g, ∀ piece ∈ laterPieces (content g).toList, ¬ LooksLikeField piece)
    {order : List Field} {field : Field} (hfield : field ∉ order) :
    (order.flatMap (readField content)).lookup field = none := by
  rw [List.lookup_eq_none_iff]
  rintro ⟨g, y⟩ hmem
  obtain ⟨g', hg', hmem⟩ := List.mem_flatMap.mp hmem
  obtain ⟨x, hread⟩ := exists_readField_eq (h g')
  rw [hread, List.mem_singleton] at hmem
  obtain ⟨rfl, -⟩ := Prod.mk.inj hmem
  have hne : field ≠ g := fun heq => hfield (heq ▸ hg')
  simpa using hne

/-- Text after a colon behind the last modifier or value makes a different draft. -/
theorem ofFields_append_fieldSeparator_ne {field : Field} (hfield : field ≠ .text)
    {later : List (Field × List Char)} (hlater : later.lookup field = none) (x ys : List Char)
    (base : List (Field × List Char)) :
    Draft.ofFields (later ++ (field, x ++ fieldSeparator :: ys) :: base) ≠
      Draft.ofFields (later ++ (field, x) :: base) := by
  intro heq
  cases field with
  | modifier =>
    have hmodifier := congrArg Draft.modifier heq
    simp only [Draft.ofFields, List.lookup_append, hlater, List.lookup_cons_self, Option.none_or,
      Option.map_some, Option.some.injEq, String.ofList_inj] at hmodifier
    exact trim_append_fieldSeparator_ne x ys hmodifier
  | value =>
    have hoperand := congrArg Draft.operand heq
    simp only [Draft.ofFields, List.lookup_append, hlater, List.lookup_cons_self, Option.none_or,
      Option.map_some, Option.some.injEq] at hoperand
    exact operandOf_append_fieldSeparator_ne x ys hoperand
  | text => exact absurd rfl hfield

/-- Strays at the end of the modifier or the value change what a clause is read as, if its contents
hold no fields themselves. -/
theorem parse_strays_ne {earlier later : List Field} {field : Field} {w : List Char}
    (hcontent : ∀ g, ∀ piece ∈ laterPieces (content g).toList, ¬ LooksLikeField piece)
    (hfield : field ≠ .text) (hearlier : field ∉ earlier) (hlater : field ∉ later)
    (hw : strays w ≠ []) :
    Draft.parse (clauseText
        (Function.update content field (content field ++ String.ofList (strays w)))
        (earlier ++ field :: later)).toList ≠
      Draft.parse (clauseText content (earlier ++ field :: later)).toList := by
  obtain ⟨x, hread⟩ := exists_readField_eq (hcontent field)
  obtain ⟨ys, hys⟩ := exists_strays_eq_cons hw
  rw [Draft.parse, Draft.parse, fields_clauseText_update hearlier hlater,
    fields_clauseText_append_cons, hread, foldl_addPiece_strayPieces, hys]
  exact ofFields_append_fieldSeparator_ne hfield
    (lookup_readField_eq_none hcontent (mt List.mem_reverse.mp hlater)) _ _ _

/-! ### Clauses in logic -/

/-- What begins with a field is no mark. -/
theorem unmark_key (field : Field) (rest : List Char) :
    unmark (field.key.toList ++ '=' :: rest) = field.key.toList ++ '=' :: rest := by
  have hnot : ¬ mark <+: trimStart (field.key.toList ++ '=' :: rest) := by
    cases field <;> simp [mark, Field.key, Text.trimStart_cons_of_not_blank,
      show isBlank 'm' = false by decide, show isBlank 'v' = false by decide,
      show isBlank 't' = false by decide, List.cons_prefix_cons]
  unfold unmark
  rw [if_neg fun h => hnot h.1]

/-- Before and after a clause, logic is read without regard to it. -/
theorem exists_drafts_around {opening closing : String} (hopen : Opens opening)
    (hclose : Closes closing) :
    ∃ before after : List Draft, ∀ (clause : String) (field : Field) (rest : List Char),
      clause.toList = field.key.toList ++ '=' :: rest → separator ∉ clause.toList →
        drafts (opening ++ clause ++ closing) =
          before ++ Draft.parse clause.toList :: after := by
  have hend : ∃ after : List Draft, ∀ logic : String,
      drafts (logic ++ closing) = drafts logic ++ after := by
    rcases hclose with rfl | ⟨clauses, rfl⟩
    · exact ⟨[], fun logic => by rw [String.append_empty, List.append_nil]⟩
    · exact ⟨_, fun logic => by rw [← String.append_assoc, drafts_append_separator]⟩
  have hstart : ∃ before : List Draft, ∀ (clause : String) (field : Field) (rest : List Char),
      clause.toList = field.key.toList ++ '=' :: rest → separator ∉ clause.toList →
        drafts (opening ++ clause) = before ++ [Draft.parse clause.toList] := by
    rcases hopen with rfl | rfl | ⟨clauses, rfl⟩
    · refine ⟨[], fun clause field rest hkey hsep => ?_⟩
      rw [String.empty_append, drafts, hkey, unmark_key, ← hkey, List.splitOn_eq_singleton hsep]
      rfl
    · refine ⟨[], fun clause field rest hkey hsep => ?_⟩
      have hmark : ("modi=" ++ clause).toList = mark ++ clause.toList := String.toList_append
      rw [drafts, hmark, hkey, Written.unmark_mark_key, ← hkey, List.splitOn_eq_singleton hsep]
      rfl
    · refine ⟨drafts clauses, fun clause field rest hkey hsep => ?_⟩
      rw [drafts_append_separator, List.splitOn_eq_singleton hsep]
      rfl
  obtain ⟨after, hafter⟩ := hend
  obtain ⟨before, hbefore⟩ := hstart
  refine ⟨before, after, fun clause field rest hkey hsep => ?_⟩
  rw [hafter, hbefore clause field rest hkey hsep, List.append_assoc, List.singleton_append]

/-- Joined fields begin with the key of the first one. -/
theorem exists_key_intercalate (content : Field → String) (field : Field) (parts : List String) :
    ∃ rest, (String.intercalate ":" (fieldText content field :: parts)).toList =
      field.key.toList ++ '=' :: rest := by
  refine ⟨(content field).toList ++ (parts.map String.toList).flatMap (fieldSeparator :: ·), ?_⟩
  rw [toList_intercalate_colon, List.map_cons, Text.intercalate_cons, toList_fieldText,
    List.append_assoc, List.cons_append]

/-- Texts without the separator of clauses, joined with colons, are without it. -/
theorem separator_not_mem_intercalate {parts : List String}
    (h : ∀ part ∈ parts, separator ∉ part.toList) :
    separator ∉ (String.intercalate ":" parts).toList := by
  rw [toList_intercalate_colon]
  intro hin
  rcases Text.mem_intercalate hin with hsep | ⟨part, hpart, hin⟩
  · exact absurd hsep (by decide)
  · obtain ⟨text, htext, rfl⟩ := List.mem_map.mp hpart
    exact h text htext hin

/-- A written field is without the separator of clauses if its content is. -/
theorem separator_not_mem_fieldText {field : Field} (h : separator ∉ (content field).toList) :
    separator ∉ (fieldText content field).toList := by
  have hkey : separator ∉ field.key.toList := by cases field <;> decide
  have hequals : separator ≠ '=' := by decide
  simp [toList_fieldText, hkey, hequals, h]

/-- Before and after a written clause, logic is read without regard to it, and without regard to a
further field in it. -/
theorem exists_drafts_clauseText {opening closing : String} (hopen : Opens opening)
    (hclose : Closes closing) :
    ∃ before after : List Draft,
      (∀ (content : Field → String) (order : List Field), order ≠ [] →
        (∀ field, separator ∉ (content field).toList) →
        drafts (opening ++ clauseText content order ++ closing) =
          before ++ Draft.parse (clauseText content order).toList :: after) ∧
      (∀ (content : Field → String) (earlier later : List Field) (further : String),
        earlier ≠ [] → (∀ field, separator ∉ (content field).toList) →
        separator ∉ further.toList →
        drafts (opening ++ clauseTextWith content earlier later further ++ closing) =
          before ++ Draft.parse (clauseTextWith content earlier later further).toList :: after) := by
  obtain ⟨before, after, haround⟩ := exists_drafts_around hopen hclose
  have hfields (content : Field → String) (hcontent : ∀ field, separator ∉ (content field).toList)
      (order : List Field) :
      ∀ part ∈ order.map (fieldText content), separator ∉ part.toList := by
    intro part hpart
    obtain ⟨field, -, rfl⟩ := List.mem_map.mp hpart
    exact separator_not_mem_fieldText (hcontent field)
  refine ⟨before, after, fun content order horder hcontent => ?_,
    fun content earlier later further hearlier hcontent hfurther => ?_⟩
  · obtain ⟨first, others, rfl⟩ := List.exists_cons_of_ne_nil horder
    obtain ⟨rest, hkey⟩ := exists_key_intercalate content first
      (others.map (fieldText content))
    exact haround _ first rest hkey (separator_not_mem_intercalate (hfields content hcontent _))
  · obtain ⟨first, others, rfl⟩ := List.exists_cons_of_ne_nil hearlier
    obtain ⟨rest, hkey⟩ := exists_key_intercalate content first
      (others.map (fieldText content) ++ further :: later.map (fieldText content))
    refine haround _ first rest hkey (separator_not_mem_intercalate fun part hpart => ?_)
    rcases List.mem_append.mp hpart with hpart | hpart
    · exact hfields content hcontent _ part hpart
    · rcases List.mem_cons.mp hpart with rfl | hpart
      · exact hfurther
      · exact hfields content hcontent _ part hpart

/-- An unknown field is written without the separator of clauses. -/
theorem UnknownField.separator_not_mem {key w : String} (h : UnknownField key w) :
    separator ∉ (key ++ "=" ++ w).toList := by
  have hequals : separator ≠ '=' := by decide
  simp [h.unknown_key.no_separator, hequals, h.no_separator]

/-- What strays into a content brings no separator of clauses with it. -/
theorem separator_not_mem_update {w : List Char} (hw : separator ∉ w)
    (hcontent : ∀ g, separator ∉ (content g).toList) (field g : Field) :
    separator ∉ (Function.update content field
      (content field ++ String.ofList (strays w)) g).toList := by
  by_cases hg : g = field
  · subst hg
    have hstrays : separator ∉ strays w := fun h => hw (strays_subset _ h)
    simp [hcontent, hstrays]
  · rw [Function.update_of_ne hg]
    exact hcontent g

/-- Logic with an unknown field before the text of one of its clauses is read like the logic without
it, except that the field before has the strays of the unknown one at its end. If every piece after
a colon of the unknown field holds an equals sign, there are no strays and the unknown field makes no
difference. If some piece does not, it makes one, unless the contents of the clause hold fields
themselves. -/
theorem unknown_field_read {content : Field → String} {earlier later : List Field} {field : Field}
    {key w opening closing : String} (horder : (earlier ++ field :: later).Nodup)
    (htext : .text ∈ later) (hcontent : ∀ g, separator ∉ (content g).toList)
    (hunknown : UnknownField key w) (hopen : Opens opening) (hclose : Closes closing) :
    drafts (opening ++ clauseTextWith content (earlier ++ [field]) later (key ++ "=" ++ w) ++
        closing) =
      drafts (opening ++ clauseText
        (Function.update content field (content field ++ String.ofList (strays w.toList)))
        (earlier ++ field :: later) ++ closing) ∧
    ((∀ piece ∈ laterPieces w.toList, '=' ∈ piece) →
      drafts (opening ++ clauseTextWith content (earlier ++ [field]) later (key ++ "=" ++ w) ++
          closing) =
        drafts (opening ++ clauseText content (earlier ++ field :: later) ++ closing)) ∧
    ((∀ g, ∀ piece ∈ laterPieces (content g).toList, ¬ LooksLikeField piece) →
      drafts (opening ++ clauseTextWith content (earlier ++ [field]) later (key ++ "=" ++ w) ++
          closing) =
        drafts (opening ++ clauseText content (earlier ++ field :: later) ++ closing) →
      ∀ piece ∈ laterPieces w.toList, '=' ∈ piece) := by
  obtain ⟨-, hfieldLater, hdisjoint⟩ := List.nodup_append.mp horder
  obtain ⟨hlater, -⟩ := List.nodup_cons.mp hfieldLater
  have hearlier : field ∉ earlier := fun h => hdisjoint field h field List.mem_cons_self rfl
  have hfield : field ≠ .text := fun h => hlater (h ▸ htext)
  have hne : earlier ++ field :: later ≠ [] := by simp
  have hupdated := separator_not_mem_update hunknown.no_separator hcontent field
  obtain ⟨before, after, hclause, hclauseWith⟩ := exists_drafts_clauseText hopen hclose
  have hread : drafts (opening ++
      clauseTextWith content (earlier ++ [field]) later (key ++ "=" ++ w) ++ closing) =
      drafts (opening ++ clauseText
        (Function.update content field (content field ++ String.ofList (strays w.toList)))
        (earlier ++ field :: later) ++ closing) := by
    rw [hclauseWith content _ later _ (by simp) hcontent hunknown.separator_not_mem,
      hclause _ _ hne hupdated,
      parse_withUnknown hearlier hlater htext hunknown.unknown_key hunknown.no_field]
  refine ⟨hread, fun hequals => ?_, fun hplain heq => ?_⟩
  · rw [hread, strays_eq_nil_iff.mpr hequals, String.ofList_nil, String.append_empty,
      Function.update_eq_self]
  · -- logic that is read alike has equal clauses, and strays would tell the two apart
    rw [← strays_eq_nil_iff]
    by_contra hstrays
    rw [hread, hclause _ _ hne hupdated, hclause _ _ hne hcontent] at heq
    exact parse_strays_ne hplain hfield hearlier hlater hstrays
      (List.cons.inj (List.append_cancel_left heq)).1

/-- A time of day in an unknown field after the modifier. -/
theorem unknown_field_read_time_of_day :
    ([] ++ Field.modifier :: [.value, .text]).Nodup ∧ UnknownField "at" "10:30" ∧
    drafts "mod=equal:at=10:30:val=0:text=x" = drafts "mod=equal:30:val=0:text=x" ∧
    drafts "mod=equal:at=10:30:val=0:text=x" ≠ drafts "mod=equal:val=0:text=x" := by
  have hunknown : UnknownField "at" "10:30" :=
    ⟨⟨by decide, by decide, by decide, by decide⟩, by decide, by decide⟩
  obtain ⟨hread, -, hne⟩ := @unknown_field_read
    (Written.content ⟨"equal", .literal "0", "x", []⟩) [] [.value, .text] .modifier
    "at" "10:30" "" "" (by decide) (by decide) (fun g => by cases g <;> decide) hunknown
    (.inl rfl) (.inl rfl)
  have hplain := hne fun g => by cases g <;> decide
  exact ⟨by decide, hunknown, hread, fun heq => absurd (hplain heq) (by decide)⟩

/-- A clause whose unknown field makes its modifier a different one. -/
theorem unknown_field_lengthens_modifier :
    drafts "mod=equal:at=10:30:val=0:text=x" =
      [⟨some "equal:30", some (.literal "0"), some "x"⟩] ∧
    drafts "mod=equal:val=0:text=x" = [⟨some "equal", some (.literal "0"), some "x"⟩] := by
  decide +kernel

end Clause

end Phrasebook
