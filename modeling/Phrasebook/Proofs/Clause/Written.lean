import Mathlib.Data.List.Basic
import Phrasebook.Clause
import Phrasebook.Proofs.Text.Split
import Phrasebook.Proofs.Token.Scan

/-!
# Writing clauses and reading them back

A clause is written as its three fields, in any order, with colons between them, and logic as its
clauses with semicolons between them (`Written.render`, `Written.renderAll`). A field may hold
colons itself: a reader splits it there and has to put it together again. It does so if the pieces
after the first cannot be taken for fields of their own, which asks more of a modifier and of an
operand, where no such piece may hold an equals sign, than of the output text, where only the key of
a field before the sign is ruled out. These are the conditions of `Written.Legible`, and under them
reading gives the clauses back (`drafts_renderAll`).
-/

namespace Phrasebook

open Text (trim)

/-- The text of an operand as an author writes it. -/
def Operand.render : Operand → String
  | .literal text => text
  | .parameter name => "$" ++ name

namespace Clause

/-! ### Written clauses -/

/-- A complete clause, and the order in which its fields are written. -/
structure Written where
  modifier : String
  operand : Operand
  text : String
  order : List Field
  deriving DecidableEq, Repr

namespace Written

/-- What stands after the key of a field and its equals sign. -/
def content (c : Written) : Field → String
  | .modifier => c.modifier
  | .value => c.operand.render
  | .text => c.text

/-- A field with its key. -/
def renderField (c : Written) (field : Field) : String :=
  field.key ++ "=" ++ c.content field

/-- A clause as its author writes it. -/
def render (c : Written) : String :=
  String.intercalate ":" (c.order.map c.renderField)

/-- Clauses as their author writes them, one after another. -/
def renderAll (clauses : List Written) : String :=
  String.intercalate ";" (clauses.map render)

/-- What a reader should make of a written clause. -/
def draft (c : Written) : Draft :=
  ⟨some c.modifier, some c.operand, some c.text⟩

/-! ### What may be written -/

/-- A text that can stand in the logic of a block: it ends neither the block nor the section, and
does not make it the section of a parameter. -/
structure Plain (cs : List Char) : Prop where
  no_brace : '\x7d' ∉ cs
  no_return : '\r' ∉ cs
  no_feed : '\n' ∉ cs
  no_bars : ¬ "||".toList <:+: cs
  no_parameter_mark : ¬ "var=".toList <:+: cs

/-- A piece that a reader takes for a field: a key before the first equals sign, blanks aside. -/
def LooksLikeField (piece : List Char) : Prop :=
  ∃ key content, piece = key ++ '=' :: content ∧ '=' ∉ key ∧
    String.ofList (trim key) ∈ ["mod", "modi", "val", "text"]

/-- What an operand has to be for its written form to be read back: the name of a parameter, or a
text that is no mention of one. -/
def OperandLegible : Operand → Prop
  | .literal text => ∀ name, Token.IsName name → trim text.toList ≠ '$' :: name
  | .parameter name => Token.IsName name.toList

/-- What may follow a colon inside the content of a field. -/
def Continues (field : Field) (piece : List Char) : Prop :=
  match field with
  | .text => ¬ LooksLikeField piece
  | _ => '=' ∉ piece

/-- A clause whose written form can be read back. -/
structure Legible (c : Written) : Prop where
  order_perm : c.order.Perm Field.all
  modifier_trimmed : trim c.modifier.toList = c.modifier.toList
  operand_legible : OperandLegible c.operand
  plain : ∀ field, Plain (c.content field).toList
  no_separator : ∀ field, separator ∉ (c.content field).toList
  continued : ∀ field, ∀ piece ∈ ((c.content field).toList.splitOn fieldSeparator).tail,
    Continues field piece

/-! ### One piece -/

/-- A known key before the first equals sign makes a piece a field. -/
theorem assigned?_key (field : Field) (content : List Char) :
    Field.assigned? (field.key.toList ++ '=' :: content) = some (field, content) := by
  have hkey : '=' ∉ field.key.toList := by cases field <;> decide
  have hfield : Field.ofKey? field.key.toList = some field := by cases field <;> decide
  simp only [Field.assigned?, Text.cutAt?_append_cons hkey, Option.bind_some, hfield,
    Option.map_some]

/-- A piece without an equals sign is no field. -/
theorem assigned?_eq_none_of_not_mem {piece : List Char} (h : '=' ∉ piece) :
    Field.assigned? piece = none := by
  unfold Field.assigned?
  rw [Text.cutAt?_eq_none_iff.mpr h]
  rfl

/-- The keys of fields are the four that are known, blanks around them aside. -/
theorem isSome_ofKey?_iff {key : List Char} :
    (Field.ofKey? key).isSome ↔ String.ofList (trim key) ∈ ["mod", "modi", "val", "text"] := by
  unfold Field.ofKey?
  split
  · next heq => simp [heq]
  · next heq => simp [heq]
  · next heq => simp [heq]
  · next heq => simp [heq]
  · next hmod hmodi hval htext =>
    have hnot : String.ofList (trim key) ∉ ["mod", "modi", "val", "text"] := by
      simp only [List.mem_cons, List.not_mem_nil, or_false, not_or]
      exact ⟨hmod, hmodi, hval, htext⟩
    simp [hnot]

/-- The pieces that are fields are those that look like one. -/
theorem looksLikeField_iff {piece : List Char} :
    LooksLikeField piece ↔ (Field.assigned? piece).isSome := by
  constructor
  · rintro ⟨key, content, rfl, hno, hkey⟩
    obtain ⟨field, hfield⟩ := Option.isSome_iff_exists.mp (isSome_ofKey?_iff.mpr hkey)
    simp only [Field.assigned?, Text.cutAt?_append_cons hno, Option.bind_some, hfield,
      Option.map_some, Option.isSome_some]
  · intro h
    obtain ⟨⟨field, content⟩, hassigned⟩ := Option.isSome_iff_exists.mp h
    unfold Field.assigned? at hassigned
    obtain ⟨⟨key, content'⟩, hcut, hmap⟩ := Option.bind_eq_some_iff.mp hassigned
    obtain ⟨field', hkey, -⟩ := Option.map_eq_some_iff.mp hmap
    obtain ⟨hpiece, hno⟩ := Text.eq_of_cutAt?_eq_some hcut
    exact ⟨key, content', hpiece, hno, isSome_ofKey?_iff.mp (Option.isSome_of_eq_some hkey)⟩

/-- A piece that continues a field is put back after it. -/
theorem addPiece_of_continues {field : Field} {piece : List Char} (h : Continues field piece)
    (content : List Char) (earlier : List (Field × List Char)) :
    addPiece ((field, content) :: earlier) piece =
      (field, content ++ fieldSeparator :: piece) :: earlier := by
  have hnone : Field.assigned? piece = none := by
    cases field with
    | text => exact Option.not_isSome_iff_eq_none.mp (mt looksLikeField_iff.mpr h)
    | modifier => exact assigned?_eq_none_of_not_mem h
    | value => exact assigned?_eq_none_of_not_mem h
  have hcond : field = .text ∨ '=' ∉ piece := by
    cases field with
    | text => exact Or.inl rfl
    | modifier => exact Or.inr h
    | value => exact Or.inr h
  simp only [addPiece, hnone, if_pos hcond]

/-- Pieces that continue a field are put back after it, each with its colon. -/
theorem foldl_addPiece_of_continues {field : Field} {pieces : List (List Char)}
    (h : ∀ piece ∈ pieces, Continues field piece) (content : List Char)
    (earlier : List (Field × List Char)) :
    pieces.foldl addPiece ((field, content) :: earlier) =
      (field, content ++ pieces.flatMap (fieldSeparator :: ·)) :: earlier := by
  induction pieces generalizing content with
  | nil => simp
  | cons piece rest ih =>
    rw [List.foldl_cons, addPiece_of_continues (h piece List.mem_cons_self),
      ih fun p hp => h p (List.mem_cons_of_mem _ hp)]
    simp

/-! ### One clause -/

/-- Each field of a legible clause is written. -/
theorem mem_order {c : Written} (h : c.Legible) (field : Field) : field ∈ c.order := by
  rw [h.order_perm.mem_iff]
  cases field <;> decide

/-- The characters of a written field: its key, the equals sign, and its content. -/
theorem toList_renderField (c : Written) (field : Field) :
    (c.renderField field).toList = field.key.toList ++ '=' :: (c.content field).toList := by
  simp [renderField]

/-- The characters of a written clause: its fields in their order, joined with the separator of
fields. -/
theorem toList_render (c : Written) :
    c.render.toList =
      [fieldSeparator].intercalate (c.order.map fun field => (c.renderField field).toList) := by
  unfold render
  rw [String.toList_intercalate, List.map_map]
  rfl

/-- Reading a written field, wherever it stands, adds that field. -/
theorem foldl_addPiece_renderField {c : Written} (h : c.Legible) (field : Field)
    (earlier : List (Field × List Char)) :
    ((c.renderField field).toList.splitOn fieldSeparator).foldl addPiece earlier =
      (field, (c.content field).toList) :: earlier := by
  have hcontinued := h.continued field
  have hjoined : [fieldSeparator].intercalate ((c.content field).toList.splitOn fieldSeparator) =
      (c.content field).toList := List.intercalate_splitOn fieldSeparator
  rcases hpieces : (c.content field).toList.splitOn fieldSeparator with _ | ⟨piece, pieces⟩
  · exact absurd hpieces (List.splitOn_ne_nil _ _)
  · rw [hpieces, List.tail_cons] at hcontinued
    rw [hpieces, Text.intercalate_cons] at hjoined
    have hkey : fieldSeparator ∉ field.key.toList ++ ['='] := by cases field <;> decide
    have hsplit : (c.renderField field).toList.splitOn fieldSeparator =
        (field.key.toList ++ '=' :: piece) :: pieces := by
      rw [toList_renderField, List.append_cons, Text.splitOn_append_of_not_mem hkey hpieces]
      simp
    have hfirst : addPiece earlier (field.key.toList ++ '=' :: piece) =
        (field, piece) :: earlier := by
      simp only [addPiece, assigned?_key]
    rw [hsplit, List.foldl_cons, hfirst, foldl_addPiece_of_continues hcontinued, hjoined]

/-- The fields of a written clause are read in the order in which they are written. -/
theorem fields_render {c : Written} (h : c.Legible) :
    fields c.render.toList =
      (c.order.map fun field => (field, (c.content field).toList)).reverse := by
  have hne : (c.order.map fun field => (c.renderField field).toList) ≠ [] := by
    intro hnil
    have hmem := mem_order h .text
    rw [List.map_eq_nil_iff.mp hnil] at hmem
    cases hmem
  have hrun (order : List Field) (earlier : List (Field × List Char)) :
      ((order.map fun field => (c.renderField field).toList).flatMap
        (List.splitOn fieldSeparator)).foldl addPiece earlier =
      (order.map fun field => (field, (c.content field).toList)).reverse ++ earlier := by
    induction order generalizing earlier with
    | nil => rfl
    | cons field rest ih =>
      rw [List.map_cons, List.flatMap_cons, List.foldl_append, foldl_addPiece_renderField h, ih]
      simp
  unfold fields
  rw [toList_render, Text.splitOn_intercalate_eq_flatMap _ hne, hrun, List.append_nil]

/-- Every field of a written clause is found. -/
theorem lookup_fields_render {c : Written} (h : c.Legible) (field : Field) :
    (fields c.render.toList).lookup field = some (c.content field).toList := by
  have hmem : field ∈ c.order.reverse := List.mem_reverse.mpr (mem_order h field)
  rw [fields_render h, ← List.map_reverse]
  exact List.lookup_graph (fun field => (c.content field).toList) hmem

/-- A literal can be read back if it is not a lone mention. -/
theorem operandLegible_literal_iff {text : String} :
    OperandLegible (.literal text) ↔ Token.lone? (trim text.toList) = none := by
  constructor
  · intro h
    by_contra hne
    obtain ⟨name, hname⟩ := Option.ne_none_iff_exists'.mp hne
    obtain ⟨htrim, hword⟩ := Token.lone?_eq_some_iff.mp hname
    exact h name.toList hword htrim
  · intro hnone name hname htrim
    have hsome : Token.lone? (trim text.toList) = some (String.ofList name) :=
      Token.lone?_eq_some_iff.mpr (by rw [String.toList_ofList]; exact ⟨htrim, hname⟩)
    rw [hnone] at hsome
    cases hsome

/-- The written form of an operand is read back. -/
theorem operandOf_render {operand : Operand} (h : OperandLegible operand) :
    operandOf operand.render.toList = operand := by
  cases operand with
  | literal text =>
    simp only [operandOf, Operand.render, operandLegible_literal_iff.mp h, String.ofList_toList]
  | parameter name =>
    have hrender : (Operand.parameter name).render.toList = '$' :: name.toList := by
      simp [Operand.render]
    have hlone : Token.lone? ('$' :: name.toList) = some name :=
      Token.lone?_eq_some_iff.mpr ⟨rfl, h⟩
    simp only [operandOf, hrender, Token.trim_mention h, hlone]

/-- A written clause is read back. -/
theorem parse_render {c : Written} (h : c.Legible) : Draft.parse c.render.toList = c.draft := by
  have hmodifier : String.ofList (trim c.modifier.toList) = c.modifier := by
    rw [h.modifier_trimmed, String.ofList_toList]
  have hoperand : operandOf c.operand.render.toList = c.operand :=
    operandOf_render h.operand_legible
  simp only [Draft.parse, Draft.ofFields, lookup_fields_render h, content, Option.map_some,
    hmodifier, hoperand, String.ofList_toList, draft]

/-! ### Legibility is decidable -/

/-- Whether a text is plain can be decided. -/
instance (cs : List Char) : Decidable (Plain cs) :=
  decidable_of_iff ('\x7d' ∉ cs ∧ '\r' ∉ cs ∧ '\n' ∉ cs ∧ ¬ "||".toList <:+: cs ∧
      ¬ "var=".toList <:+: cs)
    ⟨fun ⟨hbrace, hreturn, hfeed, hbars, hmark⟩ => ⟨hbrace, hreturn, hfeed, hbars, hmark⟩,
      fun h => ⟨h.no_brace, h.no_return, h.no_feed, h.no_bars, h.no_parameter_mark⟩⟩

/-- Whether a piece would be read as a field can be decided. -/
instance : DecidablePred LooksLikeField := fun _ =>
  decidable_of_iff _ looksLikeField_iff.symm

/-- Whether an operand is read back as it is written can be decided. -/
instance : DecidablePred OperandLegible
  | .literal _ => decidable_of_iff _ operandLegible_literal_iff.symm
  | .parameter name => inferInstanceAs (Decidable (Token.IsName name.toList))

/-- Whether a piece continues a field can be decided. -/
instance (field : Field) : DecidablePred (Continues field) := fun piece =>
  match field with
  | .text => inferInstanceAs (Decidable (¬ LooksLikeField piece))
  | .modifier => inferInstanceAs (Decidable ('=' ∉ piece))
  | .value => inferInstanceAs (Decidable ('=' ∉ piece))

/-- What is asked of a legible clause, with the fields one by one, so that it can be decided. -/
theorem legible_iff {c : Written} : c.Legible ↔
    c.order.Perm Field.all ∧ trim c.modifier.toList = c.modifier.toList ∧
      OperandLegible c.operand ∧ ∀ field ∈ Field.all, Plain (c.content field).toList ∧
        separator ∉ (c.content field).toList ∧
        ∀ piece ∈ ((c.content field).toList.splitOn fieldSeparator).tail,
          Continues field piece := by
  have hall (field : Field) : field ∈ Field.all := by cases field <;> decide
  constructor
  · intro h
    exact ⟨h.order_perm, h.modifier_trimmed, h.operand_legible, fun field _ =>
      ⟨h.plain field, h.no_separator field, h.continued field⟩⟩
  · rintro ⟨hperm, htrim, hoperand, hfields⟩
    exact ⟨hperm, htrim, hoperand, fun field => (hfields field (hall field)).1,
      fun field => (hfields field (hall field)).2.1, fun field => (hfields field (hall field)).2.2⟩

/-- Whether a clause is legible can be decided. -/
instance : DecidablePred Legible := fun _ => decidable_of_iff _ legible_iff.symm

/-! ### The list of clauses -/

/-- Joining keeps texts fit for logic. -/
theorem Plain.intercalate {sep : Char} {parts : List (List Char)}
    (hsep : sep ∉ "\x7d\r\n||var=".toList) (h : ∀ part ∈ parts, Plain part) :
    Plain ([sep].intercalate parts) := by
  have hmem (x : Char) (hx : x ∈ "\x7d\r\n||var=".toList) (hparts : ∀ part ∈ parts, x ∉ part) :
      x ∉ [sep].intercalate parts := by
    intro hin
    rcases Text.mem_intercalate hin with rfl | ⟨part, hpart, hin⟩
    · exact hsep hx
    · exact hparts part hpart hin
  refine ⟨hmem _ (by decide) fun part hp => (h part hp).no_brace,
    hmem _ (by decide) fun part hp => (h part hp).no_return,
    hmem _ (by decide) fun part hp => (h part hp).no_feed, ?_, ?_⟩
  · intro hin
    obtain ⟨part, hpart, hin⟩ := Text.infix_intercalate (by decide)
      (fun hs => hsep (List.mem_append_right "\x7d\r\n".toList (List.mem_append_left _ hs))) hin
    exact (h part hpart).no_bars hin
  · intro hin
    obtain ⟨part, hpart, hin⟩ := Text.infix_intercalate (by decide)
      (fun hs => hsep (List.mem_append_right "\x7d\r\n||".toList hs)) hin
    exact (h part hpart).no_parameter_mark hin

/-- A mark of logic or of one of its fields keeps a text fit for logic. -/
theorem Plain.append_mark {opening cs : List Char}
    (hmark : opening ∈ ["mod=".toList, "modi=".toList, "val=".toList, "text=".toList])
    (h : Plain cs) : Plain (opening ++ cs) := by
  obtain ⟨hbrace, hreturn, hfeed, hbars, hparameter⟩ := h
  simp only [List.mem_cons, List.not_mem_nil, or_false] at hmark
  -- letter by letter: no mark holds a forbidden character or the beginning of a forbidden pattern
  rcases hmark with rfl | rfl | rfl | rfl
  all_goals
    constructor
    · simpa using hbrace
    · simpa using hreturn
    · simpa using hfeed
    · simpa [List.infix_cons_iff, List.cons_prefix_cons] using hbars
    · simpa [List.infix_cons_iff, List.cons_prefix_cons] using hparameter

/-- A written field of a legible clause is plain. -/
theorem plain_renderField {c : Written} (h : c.Legible) (field : Field) :
    Plain (c.renderField field).toList := by
  have hmark : field.key.toList ++ ['='] ∈
      ["mod=".toList, "modi=".toList, "val=".toList, "text=".toList] := by
    cases field <;> decide
  rw [toList_renderField, List.append_cons]
  exact (h.plain field).append_mark hmark

/-- A legible clause is plain as it is written. -/
theorem plain_render {c : Written} (h : c.Legible) : Plain c.render.toList := by
  rw [toList_render]
  apply Plain.intercalate (by decide)
  intro part hpart
  obtain ⟨field, -, rfl⟩ := List.mem_map.mp hpart
  exact plain_renderField h field

/-- A written clause holds no separator of clauses. -/
theorem separator_not_mem_render {c : Written} (h : c.Legible) : separator ∉ c.render.toList := by
  rw [toList_render]
  intro hin
  rcases Text.mem_intercalate hin with hsep | ⟨part, hpart, hin⟩
  · exact absurd hsep (by decide)
  · obtain ⟨field, -, rfl⟩ := List.mem_map.mp hpart
    rw [toList_renderField, List.mem_append, List.mem_cons] at hin
    rcases hin with hin | hin | hin
    · cases field <;> exact absurd hin (by decide)
    · exact absurd hin (by decide)
    · exact h.no_separator field hin

/-- The characters of written clauses, joined with the separator of clauses. -/
theorem toList_renderAll (clauses : List Written) :
    (renderAll clauses).toList =
      [separator].intercalate (clauses.map fun c => c.render.toList) := by
  unfold renderAll
  rw [String.toList_intercalate, List.map_map]
  rfl

/-- Legible clauses are plain as they are written together. -/
theorem plain_renderAll {clauses : List Written} (h : ∀ c ∈ clauses, c.Legible) :
    Plain (renderAll clauses).toList := by
  rw [toList_renderAll]
  apply Plain.intercalate (by decide)
  intro part hpart
  obtain ⟨c, hc, rfl⟩ := List.mem_map.mp hpart
  exact plain_render (h c hc)

/-- Written clauses begin with the key of a field and an equals sign. -/
theorem exists_key_renderAll {clauses : List Written} (hne : clauses ≠ [])
    (h : ∀ c ∈ clauses, c.Legible) :
    ∃ (field : Field) (rest : List Char),
      (renderAll clauses).toList = field.key.toList ++ '=' :: rest := by
  rcases clauses with _ | ⟨c, clauses⟩
  · exact absurd rfl hne
  · have hmem := mem_order (h c List.mem_cons_self) .text
    rcases horder : c.order with _ | ⟨field, order⟩
    · rw [horder] at hmem
      cases hmem
    · refine ⟨field, ?_⟩
      rw [toList_renderAll, List.map_cons, Text.intercalate_cons, toList_render, horder,
        List.map_cons, Text.intercalate_cons, toList_renderField]
      simp

/-- The mark is taken off before a field. -/
theorem unmark_mark_key (field : Field) (rest : List Char) :
    unmark (mark ++ (field.key.toList ++ '=' :: rest)) = field.key.toList ++ '=' :: rest := by
  have hstart : Text.trimStart (mark ++ (field.key.toList ++ '=' :: rest)) =
      mark ++ (field.key.toList ++ '=' :: rest) :=
    Text.trimStart_cons_of_not_blank _ (by decide)
  have hassigned : (Field.assigned? (field.key.toList ++ '=' :: rest)).isSome := by
    rw [assigned?_key]
    rfl
  unfold unmark
  rw [hstart, List.drop_left, if_pos ⟨List.prefix_append _ _, hassigned⟩]

/-- The mark before written clauses is taken off. -/
theorem unmark_renderAll {clauses : List Written} (hne : clauses ≠ [])
    (h : ∀ c ∈ clauses, c.Legible) :
    unmark (mark ++ (renderAll clauses).toList) = (renderAll clauses).toList := by
  obtain ⟨field, rest, hkey⟩ := exists_key_renderAll hne h
  rw [hkey, unmark_mark_key]

/-- Written clauses are read back, one draft for each and in their order. -/
theorem drafts_renderAll {clauses : List Written} (hne : clauses ≠ [])
    (h : ∀ c ∈ clauses, c.Legible) :
    drafts ("modi=" ++ renderAll clauses) = clauses.map draft := by
  have hlogic : ("modi=" ++ renderAll clauses).toList = mark ++ (renderAll clauses).toList := by
    rw [String.toList_append]
    rfl
  have hsep : ∀ part ∈ clauses.map fun c => c.render.toList, separator ∉ part := by
    intro part hpart
    obtain ⟨c, hc, rfl⟩ := List.mem_map.mp hpart
    exact separator_not_mem_render (h c hc)
  have hparts : (clauses.map fun c => c.render.toList) ≠ [] := by
    simpa using hne
  unfold drafts
  rw [hlogic, unmark_renderAll hne h, toList_renderAll, List.splitOn_intercalate _ hsep hparts,
    List.map_map]
  apply List.map_congr_left
  intro c hc
  exact parse_render (h c hc)

end Written

end Clause

end Phrasebook
