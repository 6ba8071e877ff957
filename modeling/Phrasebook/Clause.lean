import Phrasebook.Text.Split
import Phrasebook.Token
import Phrasebook.Value

/-!
# Clauses

A clause of a choice names a modifier, a value that the reference parameter is compared with, and
the text that is put out if the modifier accepts. As written, any of the three may be missing and
the value may be the mention of a parameter; resolved against the parameters of an expansion, a
clause is complete.
-/

namespace Phrasebook

/-- The fields of a clause. -/
inductive Field where
  | modifier
  | value
  | text
  deriving DecidableEq, Repr

namespace Field

/-- The key a field is written with. -/
def key : Field → String
  | modifier => "mod"
  | value => "val"
  | text => "text"

/-- The fields in the order in which messages list them. -/
def all : List Field := [modifier, value, text]

end Field

/-- What a reference value is compared with, as written. -/
inductive Operand where
  | literal (text : String)
  | parameter (name : String)
  deriving DecidableEq, Repr

/-- A clause without some of its fields. -/
structure ClauseFault where
  missing : List Field
  deriving DecidableEq, Repr

namespace ClauseFault

/-- The keys of the missing fields. -/
def missingKeys (f : ClauseFault) : List String :=
  f.missing.map Field.key

/-- The wording of a fault. -/
def message (f : ClauseFault) : String :=
  "clause is missing " ++ String.intercalate ", " f.missingKeys

end ClauseFault

/-- A clause ready for evaluation. -/
structure Clause where
  modifier : String
  value : Value
  text : String

namespace Clause

/-- A clause as written. -/
structure Draft where
  modifier : Option String
  operand : Option Operand
  text : Option String
  deriving DecidableEq, Repr

namespace Draft

/-- Whether a field is there. -/
def has (d : Draft) : Field → Bool
  | .modifier => d.modifier.isSome
  | .value => d.operand.isSome
  | .text => d.text.isSome

/-- The fields that are not there. -/
def missing (d : Draft) : List Field :=
  Field.all.filter fun field => !d.has field

end Draft

/-- The value that an operand stands for. An unset parameter stands for the sentinel. -/
def operandValue (params : Params) : Operand → Value
  | .literal text => .string text
  | .parameter name => (params.get? name).getD (.string sentinel)

/-- The clause that a draft makes with the given parameters. -/
def Draft.resolve (params : Params) (d : Draft) : Except ClauseFault Clause :=
  match d with
  | ⟨some modifier, some operand, some text⟩ =>
    .ok ⟨modifier, operandValue params operand, text⟩
  | _ => .error ⟨d.missing⟩

/-- A draft that lacks a field does not resolve, and the fault lists what it lacks. -/
theorem Draft.resolve_of_missing (params : Params) {d : Draft} (h : d.missing ≠ []) :
    d.resolve params = .error ⟨d.missing⟩ := by
  obtain ⟨m, o, t⟩ := d
  cases m <;> cases o <;> cases t <;> try rfl
  exact absurd rfl h

/-- A draft that lacks no field resolves. -/
theorem Draft.exists_resolve (params : Params) {d : Draft} (h : d.missing = []) :
    ∃ c, d.resolve params = .ok c := by
  obtain ⟨m, o, t⟩ := d
  cases m <;> cases o <;> cases t <;> simp_all [resolve, missing, Field.all, has]

/-- A draft that does not resolve lacks a field, and the fault lists what it lacks. -/
theorem Draft.of_resolve_eq_error {params : Params} {d : Draft} {fault : ClauseFault}
    (h : d.resolve params = .error fault) : d.missing ≠ [] ∧ fault = ⟨d.missing⟩ := by
  have hmissing : d.missing ≠ [] := by
    intro hnil
    obtain ⟨c, hc⟩ := exists_resolve params hnil
    rw [hc] at h
    cases h
  rw [resolve_of_missing params hmissing] at h
  exact ⟨hmissing, (Except.error.inj h).symm⟩

/-- Resolving keeps the name of the modifier. -/
theorem Draft.modifier_of_resolve_eq_ok {params : Params} {d : Draft} {c : Clause}
    (h : d.resolve params = .ok c) : d.modifier = some c.modifier := by
  obtain ⟨m, o, t⟩ := d
  cases m <;> cases o <;> cases t <;> cases h
  rfl

end Clause

/-! ## The logic of a choice

Logic is a list of clauses between semicolons, and a clause a list of pieces between colons. A piece
is a field when a key of a field stands before its first equals sign. A piece that is no field
belongs to the field before it if that is the output text, which may hold colons and equals signs,
or if the piece holds no equals sign; otherwise it is passed over. Of two fields with one key the
later counts.
-/

open Text (cutAt? trim trimStart)

namespace Field

/-- The field of a key, blanks around it aside. -/
def ofKey? (key : List Char) : Option Field :=
  match String.ofList (trim key) with
  | "mod" => some modifier
  | "modi" => some modifier
  | "val" => some value
  | "text" => some text
  | _ => none

/-- The field that a piece assigns, and what it assigns to it. -/
def assigned? (piece : List Char) : Option (Field × List Char) :=
  (cutAt? '=' piece).bind fun (key, content) => (ofKey? key).map fun field => (field, content)

end Field

namespace Clause

/-- The separator of clauses. -/
def separator : Char := ';'

/-- The separator of the fields of a clause. -/
def fieldSeparator : Char := ':'

/-- The mark that opens logic. -/
def mark : List Char := "modi=".toList

/-! ### One clause -/

/-- The fields read so far, the last one first, and a further piece. -/
def addPiece (fields : List (Field × List Char)) (piece : List Char) : List (Field × List Char) :=
  match Field.assigned? piece with
  | some field => field :: fields
  | none =>
    match fields with
    | [] => []
    | (field, content) :: earlier =>
      if field = .text ∨ '=' ∉ piece then
        (field, content ++ fieldSeparator :: piece) :: earlier
      else fields

/-- The fields of a clause, the last one first. -/
def fields (clause : List Char) : List (Field × List Char) :=
  (clause.splitOn fieldSeparator).foldl addPiece []

/-- The operand that a value is written as: a mention of a parameter, blanks around it aside, or the
value itself. -/
def operandOf (content : List Char) : Operand :=
  match Token.lone? (trim content) with
  | some name => .parameter name
  | none => .literal (String.ofList content)

namespace Draft

/-- The draft of fields, the last one first. -/
def ofFields (fields : List (Field × List Char)) : Draft where
  modifier := (fields.lookup .modifier).map fun content => String.ofList (trim content)
  operand := (fields.lookup .value).map operandOf
  text := (fields.lookup .text).map String.ofList

/-- The draft of one clause. -/
def parse (clause : List Char) : Draft :=
  ofFields (fields clause)

end Draft

/-! ### The list of clauses -/

/-- Logic without its mark. The mark is dropped where a field follows it; where none does, as in
`modi=equal`, the mark is itself the key of the first field. -/
def unmark (logic : List Char) : List Char :=
  if mark <+: trimStart logic ∧ (Field.assigned? ((trimStart logic).drop mark.length)).isSome then
    (trimStart logic).drop mark.length
  else logic

/-- The clauses of logic, in the order in which they are written. -/
def drafts (logic : String) : List Draft :=
  ((unmark logic.toList).splitOn separator).map Draft.parse

/-- The clauses of logic with the given parameters. -/
def resolveAll (params : Params) (logic : String) : List (Except ClauseFault Clause) :=
  (drafts logic).map (Draft.resolve params)

end Clause

end Phrasebook
