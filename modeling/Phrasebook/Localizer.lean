import Phrasebook.Catalog
import Phrasebook.Expansion
import Phrasebook.Json.Reader
import Phrasebook.Value

/-!
# Requests and their answers

A request asks for the text of a key, and a localizer answers it from a catalog.
-/

/-! ## Requests and queries

A request asks for the text of a key. It is made by a program, or read from JSON of a loose
shape: a query may be an object, the text of one, a wrapper that holds either as its `text`, or a
text that is to be shown as it is.
-/

namespace Phrasebook

/-- A request for the text of a key: the language to look in, the text to fall back on, the
parameters, and whether only a dictionary of that language will do. -/
structure Request where
  iso : Option String
  key : Option String
  alt : Option String
  params : Option Params
  forceIso : Bool

namespace Request

/-- The request that asks for nothing. -/
def empty : Request := ⟨none, none, none, none, false⟩

/-- A member that should be a string. Any other value but `null` is taken by its JSON text. -/
def scalar? (json : Json) (name : String) : Option String :=
  match json.member? name with
  | none => none
  | some .null => none
  | some (.string s) => some s
  | some other => some other.compact

/-- The parameters in an object; members that are `null` are left out. -/
def paramsOfMembers (members : List (String × Json)) : Params :=
  Keyed.ofList (members.filterMap fun (name, json) =>
    (Value.ofJson? json).map fun value => (name, value))

/-- The parameters of a request. What counts as true and is no object stands for no parameter at
all. -/
def params? (json : Json) : Option Params :=
  match json.member? "params" with
  | none => none
  | some (.object members) => some (paramsOfMembers members)
  | some other => if other.isTruthy then some ∅ else none

/-- The request that a JSON value makes; only an object says anything. -/
def ofJson (json : Json) : Request where
  iso := scalar? json "iso"
  key := scalar? json "key"
  alt := scalar? json "alt"
  params := params? json
  forceIso := ((json.member? "force_iso").map Json.isTruthy).getD false

end Request

/-- What a query amounts to: nothing, a text to show as it is, or a request. -/
inductive Query where
  | nothing
  | text (s : String)
  | request (r : Request)

namespace Query

/-- A value whose wrappers are gone. -/
def ofUnwrapped (json : Json) : Query :=
  if json.isTruthy then .request (Request.ofJson json) else .nothing

/-- The value that a string is the text of, or else the string itself. -/
def ofText (s : String) (next : Json → Query) : Query :=
  match Json.read? s with
  | some json => next json
  | none => .text s

/-- A value that may wrap the query as its `text`. -/
def unwrap (json : Json) : Query :=
  match json.member? "text" with
  | none => ofUnwrapped json
  | some .null => .nothing
  | some (.string s) => ofText s ofUnwrapped
  | some nested => ofUnwrapped nested

/-- What a JSON value amounts to as a query. -/
def ofJson (json : Json) : Query :=
  if json.isTruthy then
    match json with
    | .string s => ofText s unwrap
    | other => unwrap other
  else .nothing

end Query

/-! ## Localizers

A localizer answers requests from a catalog: it looks up the key and expands what it finds with its
own modifiers.
-/

/-- A catalog and the modifiers for its templates. -/
structure Localizer where
  catalog : Catalog
  registry : Registry

namespace Localizer

/-- The localizer of a catalog with the built-in modifiers. -/
def ofCatalog (catalog : Catalog) : Localizer :=
  ⟨catalog, Registry.builtin⟩

/-- The localizer without translations. -/
def standard : Localizer :=
  ofCatalog Catalog.empty

/-- The expansion of a template with the modifiers of the localizer. -/
def expand (l : Localizer) (text alt : Option String) (params : Option Params) : Option String :=
  l.registry.expand text alt params

/-- The answer to a request: the empty text if it names no key, its alternative if the key has no
text or that cannot be expanded, and the expansion otherwise. -/
def get (l : Localizer) (r : Request) : Option String :=
  match r.key with
  | none => some ""
  | some key =>
    if key.isEmpty then some ""
    else
      match l.catalog.lookup r.iso key (!r.forceIso) with
      | none => r.alt
      | some text => l.expand (some text) r.alt r.params

/-- Whether the answer to a request is a text that is not empty. -/
def has (l : Localizer) (r : Request) : Bool :=
  (l.get r).any fun text => !text.isEmpty

/-- The answer to a query. -/
def answer (l : Localizer) : Query → Option String
  | .nothing => none
  | .text s => some s
  | .request r => l.get r

/-- The answer to a query given as a JSON value. -/
def translate (l : Localizer) (json : Json) : Option String :=
  l.answer (Query.ofJson json)

/-- The answer to a query given as a text. -/
def translateText (l : Localizer) (s : String) : Option String :=
  l.translate (.string s)

end Localizer

end Phrasebook
