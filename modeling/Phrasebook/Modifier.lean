import Phrasebook.Text.Quoted
import Phrasebook.Value

/-!
# Modifiers

A modifier decides whether a clause holds. It is asked with the value of the reference parameter,
the value and the text of the clause and all parameters, and either puts out a text or declines. It
may also install further modifiers in a registry that is shared; what it puts out depends on what it
is asked alone.
-/

namespace Phrasebook

/-- What a modifier is asked. -/
structure Call where
  reference : Option Value
  value : Value
  text : String
  params : Params

/-- A modifier: what it puts out, and what it installs, by name. -/
structure Modifier where
  output : Call → Option String
  installs : Call → List (String × Modifier)

namespace Modifier

/-- A modifier that installs nothing. -/
def ofOutput (output : Call → Option String) : Modifier :=
  ⟨output, fun _ => []⟩

/-! ### The built-in modifiers -/

/-- Accepts when there is a reference value and it stands in the wanted order to the value of the
clause. -/
def comparing (accept : Ordering → Bool) : Modifier :=
  ofOutput fun call =>
    match call.reference with
    | some reference => if accept (reference.compare call.value) then some call.text else none
    | none => none

/-- Puts out the sentinel whatever it is asked. -/
def sentinelAlways : Modifier :=
  ofOutput fun _ => some sentinel

/-- The name of the modifier that speaks when no clause can be chosen. -/
def defaultName : String := "default"

/-- The built-in modifiers and their names. -/
def builtins : List (String × Modifier) :=
  [("bigger", comparing (· == .gt)),
   ("bigger_equal", comparing (· != .lt)),
   ("smaller", comparing (· == .lt)),
   ("smaller_equal", comparing (· != .gt)),
   ("equal", comparing (· == .eq)),
   (defaultName, sentinelAlways)]

/-- When a modifier of the given name accepts, as listings say it. -/
def describe (name : String) : String :=
  match name with
  | "bigger" => "reference > val"
  | "bigger_equal" => "reference >= val"
  | "smaller" => "reference < val"
  | "smaller_equal" => "reference <= val"
  | "equal" => "reference == val"
  | "default" => "always; yields the sentinel \"-\""
  | _ => "custom"

end Modifier

/-! ### Registries

A registry holds modifiers by name. Registering a name again replaces its modifier, built-in or not.
To ask for a name that is not registered is no error: such a modifier declines.
-/

/-- Modifiers by name. -/
structure Registry where
  modifiers : Keyed Modifier

namespace Registry

/-- The registry without modifiers. -/
def empty : Registry := ⟨∅⟩

/-- The registry with a further modifier, which replaces one of its name. -/
def register (r : Registry) (name : String) (m : Modifier) : Registry :=
  ⟨r.modifiers.insert name m⟩

/-- The registry after several registrations, the first one first. -/
def registerAll (r : Registry) (entries : List (String × Modifier)) : Registry :=
  entries.foldl (fun r e => r.register e.1 e.2) r

/-- The registry of the built-in modifiers. -/
def builtin : Registry :=
  empty.registerAll Modifier.builtins

/-- The registered names, in ascending order. -/
def names (r : Registry) : List String :=
  r.modifiers.keys

/-- The modifier of a name. -/
def get? (r : Registry) (name : String) : Option Modifier :=
  r.modifiers.get? name

/-- Whether a name is registered. -/
def has (r : Registry) (name : String) : Bool :=
  (r.get? name).isSome

/-- What the modifier of a name puts out. -/
def apply (r : Registry) (name : String) (call : Call) : Option String :=
  (r.get? name).bind fun m => m.output call

/-- What the modifier of a name installs. -/
def installs (r : Registry) (name : String) (call : Call) : List (String × Modifier) :=
  ((r.get? name).map fun m => m.installs call).getD []

/-- What the default modifier is asked when no clause can be chosen. -/
def defaultCall : Call :=
  ⟨none, .string "", "", ∅⟩

/-- What is put out when no clause can be chosen: what the default modifier says, or the sentinel if
it is not registered or declines. -/
def applyDefault (r : Registry) : String :=
  (r.apply Modifier.defaultName defaultCall).getD sentinel

/-- The registry as messages show it. -/
def describe (r : Registry) : String :=
  "ModifierRegistry \x7b modifiers: [" ++ String.intercalate ", " (r.names.map Text.quote) ++
    "] \x7d"

/-- The listed names are the registered ones. -/
theorem mem_names_iff {r : Registry} {name : String} : name ∈ r.names ↔ r.has name = true :=
  Keyed.mem_keys_iff

/-- A lookup sees the last registration of its name. -/
theorem get?_register (r : Registry) (name : String) (m : Modifier) (other : String) :
    (r.register name m).get? other = if other = name then some m else r.get? other :=
  Keyed.get?_insert r.modifiers name m other

end Registry

end Phrasebook
