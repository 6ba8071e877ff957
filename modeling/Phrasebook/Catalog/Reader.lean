import Phrasebook.Catalog
import Phrasebook.Folder
import Phrasebook.Json.Reader

/-!
# Reading catalogs

A catalog is written in JSON as a record of its two dictionaries, and a dictionary as a record of
its language, its title and its translations. Unknown members are passed over; a known one may be
written once. What may be absent may also be `null`; translations may be absent only.
-/

namespace Phrasebook

open Json (Fault Reader SyntaxError)
open Json.Reader

/-! ### Members read so far -/

/-- The fields of a dictionary read so far. -/
structure DictionaryFields where
  iso : Option (Option String)
  title : Option (Option String)
  translations : Option (Keyed String)

/-- The dictionary of its fields; those that are absent say nothing. -/
def DictionaryFields.finish (f : DictionaryFields) : Dictionary :=
  ⟨f.iso.join, f.title.join, f.translations.getD ∅⟩

/-- The fields of a catalog read so far. -/
structure CatalogFields where
  base : Option (Option Dictionary)
  fallback : Option (Option Dictionary)

/-- The catalog of its fields. -/
def CatalogFields.finish (f : CatalogFields) : Catalog :=
  ⟨f.base.join, f.fallback.join⟩

namespace Catalog.Reading

/-- A field that was not read before, after its name. -/
def once {α σ : Type} (name : String) (before : Option α) (reader : Reader α) (put : α → σ) :
    Reader (Except Fault σ) := do
  if before.isSome then return .error (.duplicateMember name)
  else
    colon
    return .ok (put (← reader))

/-- A member that is passed over, after its name. -/
def unknown {σ : Type} (s : σ) : Reader (Except Fault σ) := do
  colon
  skipValue
  return .ok s

/-! ### Dictionaries -/

/-- The translations, a later one replacing an earlier one of its key. -/
def translations : Reader (Keyed String) := do
  match ← peek with
  | some '\x7b' =>
    objectOf (fun m name => do
      colon
      return .ok (m.insert name (← text))) ∅
  | _ => wrongType "a map"

/-- A member of a dictionary. -/
def dictionaryMember (f : DictionaryFields) (name : String) :
    Reader (Except Fault DictionaryFields) :=
  match name with
  | "iso" => once name f.iso (optional text) fun x => { f with iso := some x }
  | "title" => once name f.title (optional text) fun x => { f with title := some x }
  | "translations" => once name f.translations translations fun x => { f with translations := some x }
  | _ => unknown f

/-- What a dictionary is called where something else stands. -/
def dictionaryName : String := "struct Dictionary"

/-- A dictionary written as a list; the translations at its end may be left out. -/
def dictionaryList : Reader (Except Fault DictionaryFields) := do
  if !(← nextItem true) then
    return .error (.wrongLength 0 (dictionaryName ++ " with 3 elements"))
  let iso ← optional text
  if !(← nextItem false) then
    return .error (.wrongLength 1 (dictionaryName ++ " with 3 elements"))
  let title ← optional text
  if ← nextItem false then return .ok ⟨some iso, some title, some (← translations)⟩
  else return .ok ⟨some iso, some title, none⟩

/-- A dictionary. -/
def dictionary : Reader Dictionary := do
  return (← record dictionaryName dictionaryMember ⟨none, none, none⟩ dictionaryList).finish

/-! ### Catalogs -/

/-- A member of a catalog. -/
def catalogMember (f : CatalogFields) (name : String) : Reader (Except Fault CatalogFields) :=
  match name with
  | "base" => once name f.base (optional dictionary) fun x => { f with base := some x }
  | "fallback" => once name f.fallback (optional dictionary) fun x => { f with fallback := some x }
  | _ => unknown f

/-- What a catalog is called where something else stands. -/
def catalogName : String := "struct Catalog"

/-- A catalog written as a list. -/
def catalogList : Reader (Except Fault CatalogFields) := do
  if !(← nextItem true) then
    return .error (.wrongLength 0 (catalogName ++ " with 2 elements"))
  let base ← optional dictionary
  if !(← nextItem false) then
    return .error (.wrongLength 1 (catalogName ++ " with 2 elements"))
  let fallback ← optional dictionary
  return .ok ⟨some base, some fallback⟩

/-- A catalog. -/
def catalog : Reader Catalog := do
  return (← record catalogName catalogMember ⟨none, none⟩ catalogList).finish

end Catalog.Reading

/-- The catalog of a JSON text. -/
def Catalog.ofText (text : String) : Except SyntaxError Catalog :=
  runAll Catalog.Reading.catalog text

/-! ### Loading

A catalog is loaded from a text that may come from a file. It fails to load when the file cannot be
read, or when the text is no catalog.
-/

open Json (SyntaxError)

/-- Why a catalog could not be loaded, and from where. -/
inductive LoadError where
  | unreadable (path : String) (fault : ReadFault)
  | malformed (path : String) (error : SyntaxError)

namespace LoadError

/-- The wording of the error. -/
def message : LoadError → String
  | unreadable path fault => s!"failed to read '{path}': {fault.message}"
  | malformed path e => s!"{path}:{e.position.line}:{e.position.column}: {e.message}"

end LoadError

namespace Catalog

/-- What stands for a path when a catalog is given as a text. -/
def textPath : String := "<string>"

/-- The catalog of a text that came from the given place. -/
def ofTextAt (path : String) (text : String) : Except LoadError Catalog :=
  (ofText text).mapError (LoadError.malformed path)

/-- The catalog of a text. -/
def ofString (text : String) : Except LoadError Catalog :=
  ofTextAt textPath text

/-- The catalog in a file. -/
def load (read : FileReader) (path : String) : Except LoadError Catalog :=
  match read path with
  | .ok text => ofTextAt path text
  | .error fault => .error (.unreadable path fault)

end Catalog

end Phrasebook
