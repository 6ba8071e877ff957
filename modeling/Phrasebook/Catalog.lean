import Phrasebook.Keyed
import Phrasebook.Text.Quoted

/-!
# Catalogs

A dictionary holds the translations into one language, a template text for each key. A catalog has a
base dictionary and a fallback dictionary, either of which may be absent. An empty text
counts as none.
-/

namespace Phrasebook

/-- The translations into one language. -/
structure Dictionary where
  iso : Option String
  title : Option String
  translations : Keyed String

namespace Dictionary

/-- The dictionary that says nothing. -/
def empty : Dictionary := ⟨none, none, ∅⟩

/-- The text of a key, which is never empty. -/
def get? (d : Dictionary) (key : String) : Option String :=
  (d.translations.get? key).filter fun text => !text.isEmpty

/-- Whether the dictionary is of the given language; any will do when none is given. -/
def speaks (d : Dictionary) (iso : Option String) : Bool :=
  match iso with
  | none => true
  | some iso => d.iso == some iso

end Dictionary

/-- The place of a dictionary in a catalog. -/
inductive Role where
  | base
  | fallback
  deriving DecidableEq, Repr

namespace Role

/-- The name of a role. -/
def name : Role → String
  | base => "base"
  | fallback => "fallback"

/-- The roles in the order in which dictionaries are consulted. -/
def all : List Role := [base, fallback]

end Role

/-- A base dictionary and a fallback dictionary. -/
structure Catalog where
  base : Option Dictionary
  fallback : Option Dictionary

namespace Catalog

/-- The catalog without dictionaries. -/
def empty : Catalog := ⟨none, none⟩

/-- The dictionary in a role. -/
def dictionary? (c : Catalog) : Role → Option Dictionary
  | .base => c.base
  | .fallback => c.fallback

/-- The dictionaries that are there, in order. -/
def dictionaries (c : Catalog) : List (Role × Dictionary) :=
  Role.all.filterMap fun role => (c.dictionary? role).map fun d => (role, d)

/-- The text of a key: that of the base dictionary, or else of the fallback dictionary if
that may be used. A dictionary of another language than the one asked for is passed over. -/
def lookup (c : Catalog) (iso : Option String) (key : String) (useFallback : Bool) :
    Option String :=
  let consulted := if useFallback then [c.base, c.fallback] else [c.base]
  consulted.findSome? fun d => (d.filter (·.speaks iso)).bind (·.get? key)

/-- The keys of both dictionaries, in ascending order. -/
def keys (c : Catalog) : List String :=
  (Keyed.ofList (c.dictionaries.flatMap fun (_, d) => d.translations.entries)).keys

end Catalog

/-! ## Coverage

How much of a catalog each of its dictionaries translates, measured against the keys of both.
-/

/-- The coverage of one dictionary: how many keys it translates, and the keys it does not. -/
structure Coverage where
  role : Role
  iso : Option String
  translated : Nat
  missing : List String
  deriving DecidableEq, Repr

namespace Catalog

/-- The keys for which a dictionary has no text. -/
def missingIn (c : Catalog) (d : Dictionary) : List String :=
  c.keys.filter fun key => (d.get? key).isNone

/-- The coverage of each dictionary that is there. -/
def coverage (c : Catalog) : List Coverage :=
  c.dictionaries.map fun (role, d) =>
    let missing := c.missingIn d
    ⟨role, d.iso, c.keys.length - missing.length, missing⟩

end Catalog

end Phrasebook
